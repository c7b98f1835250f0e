import Gatehouse.Proofs.Http.Values
import Gatehouse.Server.Bridge

/-!
# How responses are written

`Demands` says of a computation that it needs some texts to be header values: it fails with the name
of the first one that is none, or all of them are and it goes well.  A response demands this of its
cookies, of its request id and of its location, in this order; what is written of it if all goes
well is one of the three forms of `Response.Forms` (`Response.write_spec`).
-/

namespace Gatehouse

open HeaderValue (Writes)

variable {α β : Type}

/--
What comes out of a computation that demands that some texts are header values; each has a name.
-/
inductive Demands (ds : List (String × String)) (good : Except WriteError α → Prop) :
    Except WriteError α → Prop where
  | refused {before what text after} : ds = before ++ (what, text) :: after →
    (∀ d ∈ before, Writes d.2) →
    ¬ Writes text →
    Demands ds good (.error (.unwritable (what ++ ": " ++ HeaderValue.parseMessage)))
  | met {x} : (∀ d ∈ ds, Writes d.2) → good x → Demands ds good x

/-- A value with a property. -/
inductive Succeeds (good : α → Prop) : Except WriteError α → Prop where
  | ok {a} : good a → Succeeds good (.ok a)

namespace Demands

variable {ds ds' : List (String × String)} {P Q : α → Prop} {good : Except WriteError β → Prop}

/-- A computation that demands nothing. -/
lemma nothing {x : Except WriteError β} (h : good x) : Demands [] good x :=
  .met (fun _ hd => nomatch hd) h

/-- What succeeds with one property succeeds with a weaker one. -/
lemma mono {x : Except WriteError α} (h : Demands ds (Succeeds P) x) (le : ∀ a, P a → Q a) :
    Demands ds (Succeeds Q) x := by
  cases h with
  | refused parts writes bad => exact .refused parts writes bad
  | met writes ok =>
    cases ok with
    | ok ha => exact .met writes (.ok (le _ ha))

/-- What demands one text more, before all others. -/
lemma cons {what text : String} {x : Except WriteError β} (writes : Writes text)
    (h : Demands ds good x) :
    Demands ((what, text) :: ds) good x := by
  cases h with
  | refused parts rest bad =>
    rw [parts, ← List.cons_append]
    exact .refused rfl (List.forall_mem_cons.mpr ⟨writes, rest⟩) bad
  | met rest ok => exact .met (List.forall_mem_cons.mpr ⟨writes, rest⟩) ok

/-- Computations one after the other demand what both do. -/
lemma bind {x : Except WriteError α} (first : Demands ds (Succeeds P) x)
    {f : α → Except WriteError β}
    (rest : ∀ a, P a → Demands ds' good (f a)) : Demands (ds ++ ds') good (x >>= f) := by
  cases first with
  | refused parts writes bad =>
    rw [parts, List.append_assoc, List.cons_append]
    exact .refused rfl writes bad
  | met writes ok =>
    cases ok with
    | @ok a ha =>
      have behind : Demands ds' good (Except.ok a >>= f) := rest a ha
      induction ds with
      | nil => exact behind
      | cons d ds ih =>
        obtain ⟨own, writes⟩ := List.forall_mem_cons.mp writes
        exact (ih writes).cons own

/-- A computation is refused exactly if a demand is not met. -/
lemma refused_iff {x : Except WriteError β} (h : Demands ds good x)
    (clean : ∀ detail, ¬ good (.error (.unwritable detail))) :
    (∃ detail, x = .error (.unwritable detail)) ↔ ∃ d ∈ ds, ¬ Writes d.2 := by
  cases h with
  | @refused before what text after parts _ bad =>
    have there : (what, text) ∈ ds := parts ▸ List.mem_append_right before List.mem_cons_self
    exact iff_of_true ⟨_, rfl⟩ ⟨(what, text), there, bad⟩
  | met writes ok =>
    constructor
    · rintro ⟨detail, rfl⟩
      exact absurd ok (clean detail)
    · rintro ⟨d, hd, bad⟩
      exact absurd (writes d hd) bad

/-- To make a header value is to demand that the text is one. -/
lemma headerValue {what text : String} {f : HeaderValue → Except WriteError β}
    (rest : ∀ v, v.octets = Bytes.ofText text → Demands ds good (f v)) :
    Demands ((what, text) :: ds) good (Response.headerValue what text >>= f) := by
  unfold Response.headerValue
  by_cases writes : Writes text
  · obtain ⟨v, hv, octets⟩ := HeaderValue.ofText?_of_writes writes
    rw [hv]
    exact (rest v octets).cons writes
  · rw [HeaderValue.ofText?_of_not_writes writes]
    exact .refused (List.nil_append _).symm (fun _ hd => nomatch hd) writes

end Demands

/-- The octets of the values of a name. -/
def Headers.octets (h : Headers) (name : HeaderName) : List Bytes :=
  (h.values name).map HeaderValue.octets

namespace Headers

/--
Headers that differ from others in the values of one name at most, which has the given octets.
-/
structure Assigns (name : HeaderName) (octets : List Bytes) (h h' : Headers) : Prop where
  own : h'.octets name = octets
  others : ∀ n, n ≠ name → h'.values n = h.values n

/-- A value that is inserted is the only one of its name. -/
lemma assigns_insert {name : HeaderName} {v : HeaderValue} {octets : Bytes} (hv : v.octets = octets)
    (h : Headers) :
    Assigns name [octets] h (h.insert name v) := by
  constructor
  case own => simp only [Headers.octets, values_insert, if_true, List.map_cons, List.map_nil, hv]
  case others =>
    intro n hn
    rw [values_insert, if_neg hn]

/-- Assigning the values of one name leaves all others. -/
lemma Assigns.octets_eq {name n : HeaderName} {octets : List Bytes} {h h' : Headers}
    (assigns : Assigns name octets h h') (hn : n ≠ name) : h'.octets n = h.octets n := by
  rw [Headers.octets, assigns.others n hn, Headers.octets]

end Headers

namespace Response

/-- What has to be a header value for a cookie. -/
def cookieDemand (c : SetCookie) : String × String := ("cookie '" ++ c.name ++ "'", c.render)

/--
What has to be a header value: the cookies as they were added, the request id and the location.
-/
def demands (r : Response) : List (String × String) :=
  r.cookies.map cookieDemand ++ ((r.requestId.toList.map fun id => ("request id", id)) ++
    r.location.toList.map fun location => ("location", location))

/-- The headers that a response is written with. -/
structure HeadedBy (r : Response) (h : Headers) : Prop where
  cookies : h.octets HeaderName.setCookie =
    r.headers.octets HeaderName.setCookie ++ r.cookies.map (Bytes.ofText ·.render)
  requestId : h.octets HeaderName.requestId =
    r.requestId.elim (r.headers.octets HeaderName.requestId) ([Bytes.ofText ·])
  location : h.octets HeaderName.location =
    r.location.elim (r.headers.octets HeaderName.location) ([Bytes.ofText ·])
  others : ∀ n, n ≠ HeaderName.setCookie → n ≠ HeaderName.requestId → n ≠ HeaderName.location →
    h.values n = r.headers.values n

/-- What is written of a response whose demands are met. -/
inductive Forms (r : Response) : Except WriteError NativeResponse → Prop where
  | redirected {location h} : r.location = some location → r.HeadedBy h →
    Forms r (.ok ⟨r.status, h, .empty⟩)
  | raised {message h} : r.location = none → r.error = some message → r.HeadedBy h →
    Forms r (.error (.raised ⟨r.status, message.getD r.status.canonicalText, h⟩))
  | sent {h} : r.location = none → r.error = none → r.HeadedBy h →
    Forms r (.ok ⟨r.status, h, Payload.toBody r.payload⟩)

/-- Writing cookies demands each of them, and adds them in their order. -/
lemma writeCookies_demands (h : Headers) (cs : List SetCookie) :
    Demands (cs.map cookieDemand)
      (Succeeds (Headers.Assigns HeaderName.setCookie
        (h.octets HeaderName.setCookie ++ cs.map (Bytes.ofText ·.render)) h))
      (writeCookies h cs) := by
  induction cs generalizing h with
  | nil => exact .nothing (.ok ⟨(List.append_nil _).symm, fun _ _ => rfl⟩)
  | cons c cs ih =>
    rw [writeCookies, List.map_cons, cookieDemand]
    apply Demands.headerValue
    intro v hv
    apply (ih (h.append HeaderName.setCookie v)).mono
    intro h' assigns
    constructor
    case own =>
      rw [assigns.own]
      simp only [Headers.octets, Headers.values_append, if_true, List.map_append, List.map_cons,
        List.map_nil, List.append_assoc, List.singleton_append, hv]
    case others =>
      intro n hn
      rw [assigns.others n hn, Headers.values_append, if_neg hn]

/-- Writing a request id demands it, and makes it the only one. -/
lemma writeRequestId_demands (h : Headers) (requestId : Option String) :
    Demands (requestId.toList.map fun id => ("request id", id))
      (Succeeds (Headers.Assigns HeaderName.requestId
        (requestId.elim (h.octets HeaderName.requestId) ([Bytes.ofText ·])) h))
      (writeRequestId h requestId) := by
  cases requestId with
  | none => exact .nothing (.ok ⟨rfl, fun _ _ => rfl⟩)
  | some id =>
    apply Demands.headerValue
    exact fun v hv => .nothing (.ok (Headers.assigns_insert hv h))

/--
The head of a response is its own headers with the cookies, then the request id and then the
location set.
-/
lemma headedBy_of_assigns {r : Response} {h₁ h₂ h₃ : Headers}
    (cookies : Headers.Assigns HeaderName.setCookie (r.headers.octets HeaderName.setCookie ++
      r.cookies.map (Bytes.ofText ·.render)) r.headers h₁)
    (requestId : Headers.Assigns HeaderName.requestId
      (r.requestId.elim (h₁.octets HeaderName.requestId) ([Bytes.ofText ·])) h₁ h₂)
    (location : Headers.Assigns HeaderName.location
      (r.location.elim (h₂.octets HeaderName.location) ([Bytes.ofText ·])) h₂ h₃) :
      r.HeadedBy h₃ := by
  constructor
  case cookies => rw [location.octets_eq (by decide), requestId.octets_eq (by decide), cookies.own]
  case requestId =>
    rw [location.octets_eq (by decide), requestId.own, cookies.octets_eq (by decide)]
  case location => rw [location.own, requestId.octets_eq (by decide), cookies.octets_eq (by decide)]
  case others =>
    intro n hc hi hl
    rw [location.others n hl, requestId.others n hi, cookies.others n hc]

/-- Writing a response demands its texts, and gives one of its forms. -/
lemma write_demands (r : Response) : Demands r.demands r.Forms r.write := by
  unfold write demands
  apply (writeCookies_demands r.headers r.cookies).bind
  intro h₁ cookies
  apply (writeRequestId_demands h₁ r.requestId).bind
  intro h₂ requestId
  have head (h₃ : Headers) := @headedBy_of_assigns r h₁ h₂ h₃ cookies requestId
  cases location : r.location with
  | some target =>
    rw [location] at head
    apply Demands.headerValue
    exact fun v hv => .nothing (.redirected location (head _ (Headers.assigns_insert hv h₂)))
  | none =>
    rw [location] at head
    have head := head h₂ ⟨rfl, fun _ _ => rfl⟩
    apply Demands.nothing
    cases error : r.error with
    | some message => exact .raised location error head
    | none => exact .sent location error head

/-- The request id is named before the location, even if the response is an error. -/
example :
    write { failure .notFound none with requestId := some "a\n", location := some "/b\n" } =
      .error (.unwritable "request id: failed to parse header value") := rfl

end Response

end Gatehouse
