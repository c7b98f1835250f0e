import Gatehouse.Proofs.Server.Failures
import Gatehouse.Proofs.Server.Writing

/-!
# Lengths that are stated and lengths that are sent

A message is framed if the length that its headers state, if they state one, is the length of its
body.  What is taken up of a framed answer is framed, and what is sent of it as it is, too.  But a
redirect leaves the body out and a failure has a body of its own, while the headers stay; so such an
answer is framed only if they state no length or one that happens to be right
(`Response.framed_writeOrRender`).
-/

namespace Gatehouse

open HeaderValue (Writes)

/-- The header that states the length of a body. -/
def HeaderName.contentLength : HeaderName := "content-length"

/-- The number that a value writes in decimal digits. -/
def HeaderValue.number? (v : HeaderValue) : Option Nat :=
  v.text?.bind fun t => if t.toList ≠ [] ∧ t.toList.all Text.isDigit then
    some (Text.digitsValue t.toList) else none

/-- No other length is stated than the given one. -/
def Headers.Declares (h : Headers) (length : Nat) : Prop :=
  ∀ v ∈ h.values HeaderName.contentLength, v.number? = some length

instance (h : Headers) (length : Nat) : Decidable (h.Declares length) :=
  inferInstanceAs (Decidable (∀ v ∈ _, _))

/-- The number of octets that are sent of a body. -/
def Body.length : Body → Nat
  | buffer octets => octets.length
  | frames octets _ => octets.flatten.length

/-- An answer that states no other length than that of its body. -/
def NativeResponse.Framed (n : NativeResponse) : Prop := n.headers.Declares n.body.length

instance (n : NativeResponse) : Decidable n.Framed :=
  inferInstanceAs (Decidable (Headers.Declares _ _))

namespace Headers

variable {h h' : Headers} {k k' : Nat}

/-- Where no length is stated no other one is. -/
lemma declares_of_none (none : h.values HeaderName.contentLength = []) : h.Declares k := by
  intro v hv
  rw [none] at hv
  cases hv

/-- Headers that state one length state another one only if there is none. -/
lemma Declares.iff (declares : h.Declares k) :
    h.Declares k' ↔ h.values HeaderName.contentLength = [] ∨ k = k' := by
  constructor
  · intro other
    cases stated : h.values HeaderName.contentLength with
    | nil => exact .inl rfl
    | cons v vs =>
      have first : v ∈ h.values HeaderName.contentLength := stated ▸ List.mem_cons_self
      exact .inr (Option.some_inj.mp ((declares v first).symm.trans (other v first)))
  · rintro (none | rfl)
    · exact declares_of_none none
    · exact declares

/-- Which length is stated depends on the header for it alone. -/
lemma declares_congr (same : h.values HeaderName.contentLength =
    h'.values HeaderName.contentLength) :
    h.Declares k ↔ h'.Declares k := by
  rw [Declares, same, Declares]

end Headers

namespace HttpFailure

/-- The length of the body that a failure is answered with. -/
def length (f : HttpFailure) : Nat := f.toResponse.body.length

/-- The answer of a failure is framed if its headers state no other length. -/
lemma framed_toResponse_iff (f : HttpFailure) :
    f.toResponse.Framed ↔ f.headers.Declares f.length := by
  apply Headers.declares_congr
  rw [toResponse, Headers.values_insert, if_neg (by decide)]

end HttpFailure

namespace Response

/-- The length of the body of a response. -/
def length (r : Response) : Nat := (Payload.toBody r.payload).length

/-- The length of the body that is sent of a response whose parts can all be written. -/
def sentLength (r : Response) : Nat :=
  match r.location, r.error with
  | some _, _ => 0
  | none, some message => HttpFailure.length ⟨r.status, message.getD r.status.canonicalText, .empty⟩
  | none, none => r.length

/-- A response that states no other length than that of its body. -/
def Framed (r : Response) : Prop := r.headers.Declares r.length

instance (r : Response) : Decidable r.Framed := inferInstanceAs (Decidable (Headers.Declares _ _))

/-- The headers that are written state the length that the response states. -/
lemma HeadedBy.declares_iff {r : Response} {h : Headers} (head : r.HeadedBy h) (k : Nat) :
    h.Declares k ↔ r.headers.Declares k :=
  Headers.declares_congr (head.others _ (by decide) (by decide) (by decide))

/-- What is taken up of a framed answer is framed. -/
lemma framed_ofNative {n : NativeResponse} (framed : n.Framed) : (ofNative n).Framed := by
  have same : (ofNative n).length = n.body.length := by
    unfold length ofNative
    cases n.body with
    | frames octets failure => rfl
    | buffer octets => cases octets <;> rfl
  unfold Framed
  rw [same]
  exact framed

/--
What is sent of a framed response is framed if the plain failure is sent, if no length is stated, or
if the body that is sent has the same length.
-/
lemma framed_writeOrRender_iff {r : Response} (framed : r.Framed) :
    r.writeOrRender.Framed ↔
      (∃ d ∈ r.demands, ¬ Writes d.2) ∨ r.headers.values HeaderName.contentLength = [] ∨
      r.length = r.sentLength := by
  have written := r.write_demands
  unfold writeOrRender
  generalize r.write = x at written ⊢
  cases written with
  | @refused before what text after parts _ bad =>
    have there : (what, text) ∈ r.demands := parts ▸ List.mem_append_right before List.mem_cons_self
    refine iff_of_true ?_ (.inl ⟨_, there, bad⟩)
    exact (HttpFailure.framed_toResponse_iff .internal).mpr (Headers.declares_of_none rfl)
  | met writes forms =>
    have met : ¬ ∃ d ∈ r.demands, ¬ Writes d.2 := fun ⟨d, hd, bad⟩ => bad (writes d hd)
    rw [or_iff_right met, ← Headers.Declares.iff framed]
    cases forms with
    | redirected location head =>
      rw [sentLength, location]
      exact head.declares_iff 0
    | @raised message h location error head =>
      rw [sentLength, location, error]
      exact (HttpFailure.framed_toResponse_iff _).trans (head.declares_iff _)
    | sent location error head =>
      rw [sentLength, location, error]
      exact head.declares_iff r.length

/--
A framed answer is sent framed, unless it states a length and is sent as a redirect or as a failure.
-/
theorem framed_writeOrRender (r : Response) (e : NativeError) :
    (∀ n, r = ofNative n → n.Framed → r.Framed) ∧
    (r.Framed → (r.writeOrRender.Framed ↔ (∃ d ∈ r.demands, ¬ Writes d.2) ∨
      r.headers.values HeaderName.contentLength = [] ∨ r.length = r.sentLength)) ∧
    (r.Framed → r.location = none → r.error = none → r.writeOrRender.Framed) ∧
    ∀ f k, e.carrier? = some (.inl f) → f.headers.Declares k →
      ((ofError e).writeOrRender.Framed ↔
        f.headers.values HeaderName.contentLength = [] ∨ k = f.shown.length) := by
  refine ⟨?captured, framed_writeOrRender_iff, ?plain, ?raised⟩
  case captured =>
    rintro n rfl framed
    exact framed_ofNative framed
  case plain =>
    intro framed location error
    rw [framed_writeOrRender_iff framed, sentLength, location, error]
    exact .inr (.inr rfl)
  case raised =>
    intro f k found declares
    rw [writeOrRender_of_http found, HttpFailure.framed_toResponse_iff, HttpFailure.headers_shown,
      declares.iff]

/-- The value of a header for two octets. -/
def two : HeaderValue := ⟨Bytes.ofText "2", by decide +kernel⟩

/-- An answer of two octets that states its length. -/
def stated : NativeResponse :=
  ⟨.ok, Headers.empty.append HeaderName.contentLength two, .buffer (Bytes.ofText "ok")⟩

/-- That answer after it was marked as an error. -/
def marked : Response := { ofNative stated with error := some (some "boom") }

/-- A redirect with the headers and the body of that answer. -/
def steered : Response :=
  { redirect ⟨302, by decide⟩ "/next" with
    headers := stated.headers
    payload := .stream stated.body }

/-- A failure with the headers of that answer. -/
def copied : HttpFailure := ⟨.notFound, "gone", stated.headers⟩

/--
As it is the answer is sent framed; marked as an error or copied into a failure it has another
length.
-/
theorem framed_writeOrRender_stated :
    stated.Framed ∧ (ofNative stated).Framed ∧ (ofNative stated).writeOrRender.Framed ∧
    marked.Framed ∧ (marked.writeOrRender.Framed ↔ (∃ d ∈ marked.demands, ¬ Writes d.2) ∨
      marked.headers.values HeaderName.contentLength = [] ∨ marked.length = marked.sentLength) ∧
    marked.length = 2 ∧ marked.sentLength = 40 ∧ copied.headers.Declares 2 ∧
    ((ofError (.http copied)).writeOrRender.Framed ↔
      copied.headers.values HeaderName.contentLength = [] ∨ 2 = copied.shown.length) ∧
        copied.shown.length = 47 := by
  have framed : stated.Framed := by decide +kernel
  have marked_framed : marked.Framed := by decide +kernel
  have declares : copied.headers.Declares 2 := by decide +kernel
  obtain ⟨captured, -, sent, raised⟩ := framed_writeOrRender (ofNative stated) (.http copied)
  obtain ⟨-, iff_sent, -⟩ := framed_writeOrRender marked (.http copied)
  have captured := captured stated rfl framed
  exact ⟨framed, captured, sent captured rfl rfl, marked_framed,
    iff_sent marked_framed, by decide +kernel,
    by decide +kernel, declares, raised copied 2 rfl declares, by decide +kernel⟩

/--
A framed answer that is marked as an error, one that is made a redirect, and a failure with its
headers: none is sent framed.
-/
theorem not_framed_marked :
    marked.Framed ∧ ¬ marked.writeOrRender.Framed ∧ steered.Framed ∧
    ¬ steered.writeOrRender.Framed ∧
    stated.Framed ∧ ¬ (ofError (.http copied)).writeOrRender.Framed := by decide +kernel

end Response

end Gatehouse
