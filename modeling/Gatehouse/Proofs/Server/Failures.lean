import Gatehouse.Proofs.Http.Maps
import Gatehouse.Proofs.Server.Concealment
import Gatehouse.Proofs.Text.Folding

/-!
# How failures are answered

An error is searched for a status from the outside in (`NativeError.causes`).  The first of its
causes that has one decides the answer, and without one the text of the error itself, in which a
phrase stands for a status in letters of any case (`Response.ofError_spec`).  Of a server error the
client is shown the status alone (`HttpFailure.shown`).
-/

namespace Gatehouse

namespace NativeError

/-- The error itself, the error that caused it, and so on. -/
def causes : NativeError → List NativeError
  | http f => [http f]
  | fault f => [fault f]
  | caused f cause => caused f cause :: cause.causes
  | plain m => [plain m]
  | wrapped m cause => wrapped m cause :: cause.causes

/-- An error that is known by its text alone, whatever caused it. -/
inductive Untyped : NativeError → Prop where
  | plain (m) : Untyped (plain m)
  | wrapped (m cause) : Untyped (wrapped m cause)

/-- An error that is itself a failure or a fault. -/
inductive Typed : NativeError → HttpFailure ⊕ Fault → Prop where
  | http (f) : Typed (http f) (.inl f)
  | fault (f) : Typed (fault f) (.inr f)
  | caused (f cause) : Typed (caused f cause) (.inr f)

/-- The first of some errors that is a failure or a fault. -/
def First (es : List NativeError) (c : HttpFailure ⊕ Fault) : Prop :=
  ∃ before t after, es = before ++ t :: after ∧ (∀ b ∈ before, b.Untyped) ∧ t.Typed c

variable {c : HttpFailure ⊕ Fault}

/-- Among no errors none is the first. -/
lemma not_first_nil : ¬ First [] c := by
  rintro ⟨before, t, after, parts, -⟩
  cases before with
  | nil => cases parts
  | cons b before => cases parts

/-- The first failure or fault is the error itself, or that of its causes. -/
lemma first_cons {e : NativeError} {es : List NativeError} :
    First (e :: es) c ↔ e.Typed c ∨ (e.Untyped ∧ First es c) := by
  constructor
  · rintro ⟨before, t, after, parts, untyped, typed⟩
    cases before with
    | nil =>
      cases parts
      exact .inl typed
    | cons b before =>
      cases parts
      obtain ⟨own, untyped⟩ := List.forall_mem_cons.mp untyped
      exact .inr ⟨own, before, t, after, rfl, untyped, typed⟩
  · rintro (typed | ⟨own, before, t, after, rfl, untyped, typed⟩)
    · exact ⟨[], e, es, rfl, List.forall_mem_nil _, typed⟩
    · exact ⟨e :: before, t, after, rfl, List.forall_mem_cons.mpr ⟨own, untyped⟩, typed⟩

/-- What is found of an error is the first failure or fault among its causes. -/
lemma carrier?_eq_some_iff {e : NativeError} : e.carrier? = some c ↔ First e.causes c := by
  induction e with
  | http f =>
    rw [causes, first_cons, or_iff_left fun h => not_first_nil h.2, carrier?, Option.some_inj]
    exact ⟨fun e => e ▸ .http f, fun t => by cases t; rfl⟩
  | fault f =>
    rw [causes, first_cons, or_iff_left fun h => not_first_nil h.2, carrier?, Option.some_inj]
    exact ⟨fun e => e ▸ .fault f, fun t => by cases t; rfl⟩
  | caused f cause ih =>
    have known : ¬ (Untyped (caused f cause) ∧ First cause.causes c) := fun h => nomatch h.1
    rw [causes, first_cons, or_iff_left known, carrier?, Option.some_inj]
    exact ⟨fun e => e ▸ .caused f cause, fun t => by cases t; rfl⟩
  | plain m =>
    rw [causes, first_cons, or_iff_left fun h => not_first_nil h.2, carrier?]
    exact iff_of_false nofun nofun
  | wrapped m cause ih =>
    rw [causes, first_cons, or_iff_right nofun, carrier?, ih]
    exact (and_iff_right (.wrapped m cause)).symm

/-- Nothing is found of an error all of whose causes are texts alone. -/
lemma carrier?_eq_none_iff {e : NativeError} : e.carrier? = none ↔ ∀ b ∈ e.causes, b.Untyped := by
  induction e with
  | http f => exact iff_of_false nofun fun h => nomatch h _ List.mem_cons_self
  | fault f => exact iff_of_false nofun fun h => nomatch h _ List.mem_cons_self
  | caused f cause ih => exact iff_of_false nofun fun h => nomatch h _ List.mem_cons_self
  | plain m => exact iff_of_true rfl (List.forall_mem_singleton.mpr (.plain m))
  | wrapped m cause ih =>
    rw [causes, List.forall_mem_cons, carrier?, ih]
    exact (and_iff_right (.wrapped m cause)).symm

end NativeError

/-- Whether a phrase stands in a text, in letters of any case. -/
def Says (text phrase : String) : Prop := phrase.toList <:+: (Text.lower text).toList

instance (text phrase : String) : Decidable (Says text phrase) :=
  inferInstanceAs (Decidable (_ <:+: _))

/-- The status that a text stands for. -/
def spokenStatus (text : String) : Status :=
  if Says text "not found" then .notFound
  else if Says text "unauthorized" then .unauthorized
  else if Says text "forbidden" then .forbidden
  else if Says text "bad request" then .badRequest
  else .internalError

/-- The phrases that stand for a status are phrases. -/
lemma isPhrase_of_errorPhrases : ∀ p ∈ errorPhrases, Text.IsPhrase p.1.toList := by
  have ends : ∀ p ∈ errorPhrases, p.1.toList ≠ [] ∧ p.1.toList.getLast? ≠ some 'i' := by
    decide +kernel
  have within : ∀ p ∈ errorPhrases, p.1.toList.all (fun c => decide (Text.IsPhraseChar c)) =
    true := by decide +kernel
  intro p hp
  obtain ⟨nonempty, last⟩ := ends p hp
  exact ⟨nonempty, fun c hc => of_decide_eq_true (List.all_eq_true.mp (within p hp) c hc), last⟩

/-- A text stands for the status of the first phrase of the list that it says. -/
lemma statusOfText_eq_spokenStatus (text : String) : statusOfText text = spokenStatus text := by
  have found {p : String × Status} (hp : p ∈ errorPhrases) :
      Text.hasInfix p.1.toList (text.toList.map Text.lowerAscii) = decide (Says text p.1) := by
    rw [Bool.eq_iff_iff, decide_eq_true_eq]
    exact Text.hasInfix_iff_lower (isPhrase_of_errorPhrases p hp) text
  have notFound := found (p := ("not found", .notFound)) (by decide)
  have unauthorized := found (p := ("unauthorized", .unauthorized)) (by decide)
  have forbidden := found (p := ("forbidden", .forbidden)) (by decide)
  have badRequest := found (p := ("bad request", .badRequest)) (by decide)
  unfold statusOfText errorPhrases spokenStatus
  dsimp only at notFound unauthorized forbidden badRequest ⊢
  simp only [List.find?_cons, List.find?_nil, notFound, unauthorized, forbidden, badRequest]
  by_cases h₁ : Says text "not found"
  · simp only [h₁, decide_true, if_true]
  · by_cases h₂ : Says text "unauthorized"
    · simp only [h₁, h₂, decide_true, decide_false, if_true, if_false]
    · by_cases h₃ : Says text "forbidden"
      · simp only [h₁, h₂, h₃, decide_true, decide_false, if_true, if_false]
      · by_cases h₄ : Says text "bad request"
        · simp only [h₁, h₂, h₃, h₄, decide_true, decide_false, if_true, if_false]
        · simp only [h₁, h₂, h₃, h₄, decide_false, if_false]

/-- The failure that a client is shown: a server error has no message of its own. -/
def HttpFailure.shown (f : HttpFailure) : HttpFailure :=
  if f.status.isServerError then { f with message := f.status.canonicalText } else f

namespace HttpFailure

/-- The failure that is shown has its status. -/
@[simp]
lemma status_shown (f : HttpFailure) : f.shown.status = f.status := by
  unfold shown
  split
  · rfl
  · rfl

/-- The failure that is shown has its headers. -/
@[simp]
lemma headers_shown (f : HttpFailure) : f.shown.headers = f.headers := by
  unfold shown
  split
  · rfl
  · rfl

/-- The failure that is shown has its code. -/
@[simp]
lemma code_shown (f : HttpFailure) : f.shown.code = f.code := by
  rw [code, status_shown, code]

end HttpFailure

namespace Response

open NativeError

/-- A failure without headers of its own has none. -/
lemma headers_ofFailure (s : Status) (message : String) :
    (ofFailure s message).headers = .empty := by
  unfold ofFailure
  split
  · rfl
  · rfl

/-- A failure is written as it is shown. -/
lemma writeOrRender_ofFailure (s : Status) (message : String) (h : Headers) :
    { ofFailure s message with headers := h }.writeOrRender =
      (HttpFailure.shown ⟨s, message, h⟩).toResponse := by
  unfold ofFailure HttpFailure.shown
  split
  · rfl
  · rfl

/-- A failure with a message is shown without headers. -/
lemma writeOrRender_plain (s : Status) (message : String) :
    (ofFailure s message).writeOrRender = (HttpFailure.shown ⟨s, message, .empty⟩).toResponse := by
  rw [← writeOrRender_ofFailure, ← headers_ofFailure s message]

/-- A raised failure is shown with its own headers. -/
lemma writeOrRender_of_http {e : NativeError} {f : HttpFailure}
    (found : e.carrier? = some (.inl f)) : (ofError e).writeOrRender = f.shown.toResponse := by
  have taken_up : ofError e =
      { ofFailure f.status f.message with headers := .ofList f.headers.toList } := by
    unfold ofError
    simp only [found, headers_ofFailure]
    rfl
  rw [taken_up, writeOrRender_ofFailure, Headers.ofList_toList]

/-- A message that is not for clients is replaced in any case. -/
lemma shown_publicMessage (f : Fault) :
    HttpFailure.shown ⟨f.status, f.publicMessage, .empty⟩ =
      HttpFailure.shown ⟨f.status, f.message, .empty⟩ := by
  obtain ⟨kind, message, cause⟩ := f
  cases kind with
  | internal => rfl
  | _ => rfl

/-- A fault is shown with its status and its message. -/
lemma writeOrRender_of_fault {e : NativeError} {f : Fault} (found : e.carrier? = some (.inr f)) :
    (ofError e).writeOrRender = (HttpFailure.shown ⟨f.status, f.message, .empty⟩).toResponse := by
  unfold ofError
  simp only [found]
  rw [writeOrRender_plain, shown_publicMessage]

/-- An error that is a text alone is shown with the status that the text stands for. -/
lemma writeOrRender_of_text {e : NativeError} (none_found : e.carrier? = none) :
    (ofError e).writeOrRender =
      (HttpFailure.shown ⟨spokenStatus e.display, e.display, .empty⟩).toResponse := by
  unfold ofError
  simp only [none_found]
  rw [writeOrRender_plain, statusOfText_eq_spokenStatus]

/-- A missing page with two cookies and a type of its own. -/
def missingPage : HttpFailure :=
  ⟨.notFound, "no page",
    ((Headers.empty.append HeaderName.setCookie Server.firstId).append
      HeaderName.setCookie Server.secondId).append HeaderName.contentType HeaderValue.plainText⟩

/-- A fault that was caused by a missing page, behind a text that speaks of something else. -/
def misleading : NativeError :=
  .wrapped "Forbidden" (.caused ⟨.internal, "bad request", none⟩ (.http missingPage))

end Response

end Gatehouse
