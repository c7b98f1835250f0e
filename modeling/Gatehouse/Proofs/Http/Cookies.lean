import Gatehouse.Http.Request
import Gatehouse.Proofs.Http.Values
import Gatehouse.Proofs.Text.Fields

/-!
# Cookies that are read back

A pair is read from what stands on both sides of its first equals sign, each side trimmed
(`Cookie.ofPair?_append`).  So a pair that was written is read back whatever blanks and quotes were
put around its parts, and a piece that is no pair gives nothing (`Cookie.Piece.ofPair?_toChars`).
The cookies of a request are the pairs of its lines in their order (`Request.sends_lines`).
-/

namespace Gatehouse

namespace Cookie

/-- A text that may stand between semicolons. -/
def Fits (cs : List Char) : Prop := ∀ c ∈ cs, Bytes.IsVisibleChar c ∧ c ≠ ';'

/-- A text of blanks alone. -/
def Blank (cs : List Char) : Prop := ∀ c ∈ cs, isBlank c = true

instance (cs : List Char) : Decidable (Fits cs) := List.decidableBAll _ cs
instance (cs : List Char) : Decidable (Blank cs) := List.decidableBAll _ cs

/-- A blank is visible and neither semicolon nor equals sign. -/
lemma visible_of_isBlank {c : Char} (h : isBlank c = true) :
    Bytes.IsVisibleChar c ∧ c ≠ ';' ∧ c ≠ '=' := by
  rcases Bool.or_eq_true_iff.mp h with h | h
  · cases eq_of_beq h
    decide
  · cases eq_of_beq h
    decide

/-- Blanks may stand between semicolons. -/
lemma Blank.fits {cs : List Char} (h : Blank cs) : Fits cs := fun c hc =>
  ⟨(visible_of_isBlank (h c hc)).1, (visible_of_isBlank (h c hc)).2.1⟩

/-- No equals sign stands among blanks. -/
lemma Blank.free {cs : List Char} (h : Blank cs) : '=' ∉ cs :=
  fun hc => (visible_of_isBlank (h '=' hc)).2.2 rfl

/-- A text may stand between semicolons if its parts may. -/
lemma fits_append {a b : List Char} : Fits (a ++ b) ↔ Fits a ∧ Fits b := List.forall_mem_append

/-- A text may stand between semicolons if its characters may. -/
lemma fits_cons {c : Char} {cs : List Char} :
    Fits (c :: cs) ↔ (Bytes.IsVisibleChar c ∧ c ≠ ';') ∧ Fits cs :=
  List.forall_mem_cons

/-- No semicolon stands in what may stand between semicolons. -/
lemma Fits.free {cs : List Char} (h : Fits cs) : ';' ∉ cs := fun hc => (h ';' hc).2 rfl

/-- A pair is read from what stands before and behind its first equals sign. -/
lemma ofPair?_append {a : List Char} (free : '=' ∉ a) (b : List Char) :
    ofPair? (a ++ '=' :: b) = if Text.trim isBlank a = [] then none
      else some (String.ofList (Text.trim isBlank a),
        String.ofList (Text.trim (· == '"') (Text.trim isBlank b))) := by
  rw [ofPair?, Text.cut?_trim_append (p := isBlank) rfl free b]
  simp only [Text.trim_dropWhile, Text.trim_rdropWhile]

/-- A text without equals sign is no pair. -/
lemma ofPair?_of_not_mem {cs : List Char} (free : '=' ∉ cs) : ofPair? cs = none := by
  rw [ofPair?, Text.cut?_of_not_mem fun there => free (Text.mem_of_mem_trim there)]

/-- A pair as clients write it: blanks may stand around both parts, and quotes around the value. -/
structure Written where
  before : List Char
  name : List Char
  beforeEquals : List Char
  afterEquals : List Char
  value : List Char
  quoted : Bool
  after : List Char
deriving DecidableEq, Repr

namespace Written

/-- The value, in quotes if the pair has them. -/
def shown (w : Written) : List Char := if w.quoted then '"' :: w.value ++ ['"'] else w.value

/-- The text of a pair. -/
def toChars (w : Written) : List Char :=
  w.before ++ w.name ++ w.beforeEquals ++ '=' :: w.afterEquals ++ w.shown ++ w.after

end Written

/--
What may stand between two semicolons: a pair, a text without equals sign, or a value without a
name.
-/
inductive Piece where
  | pair (w : Written)
  | word (text : List Char)
  | nameless (blank value : List Char)
deriving DecidableEq, Repr

/-- The text of a piece. -/
def Piece.toChars : Piece → List Char
  | pair w => w.toChars
  | word text => text
  | nameless blank value => blank ++ '=' :: value

/-- The header value of pieces. -/
def lineOf (ps : List Piece) : String := String.ofList (Text.join ';' (ps.map Piece.toChars))

/-- A pair that can be read back.  Only a value without quotes must not have blanks at its ends. -/
structure Written.Proper (w : Written) : Prop where
  before : Blank w.before
  beforeEquals : Blank w.beforeEquals
  afterEquals : Blank w.afterEquals
  after : Blank w.after
  named : w.name ≠ []
  name_fits : Fits w.name
  name_free : '=' ∉ w.name
  name_trimmed : Text.IsTrimmed isBlank w.name
  value_fits : Fits w.value
  value_unquoted : Text.IsTrimmed (· == '"') w.value
  value_trimmed : w.quoted = false → Text.IsTrimmed isBlank w.value

namespace Written

instance (w : Written) : Decidable w.Proper :=
  decidable_of_iff ((Blank w.before ∧ Blank w.beforeEquals ∧ Blank w.afterEquals ∧ Blank w.after) ∧
      (w.name ≠ [] ∧ Fits w.name ∧ '=' ∉ w.name ∧ Text.IsTrimmed isBlank w.name) ∧
      Fits w.value ∧ Text.IsTrimmed (· == '"') w.value ∧
      (w.quoted = false → Text.IsTrimmed isBlank w.value))
    ⟨fun ⟨⟨h₁, h₂, h₃, h₄⟩, ⟨h₅, h₆, h₇, h₈⟩, h₉, h₁₀, h₁₁⟩ =>
    ⟨h₁, h₂, h₃, h₄, h₅, h₆, h₇, h₈, h₉, h₁₀, h₁₁⟩,
      fun h => ⟨⟨h.before, h.beforeEquals, h.afterEquals, h.after⟩,
        ⟨h.named, h.name_fits, h.name_free, h.name_trimmed⟩, h.value_fits, h.value_unquoted,
        h.value_trimmed⟩⟩

variable {w : Written}

/-- The equals sign of a pair stands between its two parts. -/
lemma toChars_eq (w : Written) :
    w.toChars = (w.before ++ w.name ++ w.beforeEquals) ++
    '=' :: (w.afterEquals ++ w.shown ++ w.after) := by
  simp only [toChars, List.append_assoc, List.cons_append]

/-- Quotes keep the blanks at the ends of a value. -/
lemma Proper.shown_trimmed (h : w.Proper) : Text.IsTrimmed isBlank w.shown := by
  unfold shown
  cases quoted : w.quoted with
  | true =>
    have last : ('"' :: w.value ++ ['"']).getLast? = some '"' := List.getLast?_concat
    rw [if_pos rfl, Text.IsTrimmed, last]
    exact ⟨rfl, rfl⟩
  | false => exact h.value_trimmed quoted

/-- The value is what stands in the quotes. -/
lemma Proper.trim_shown (h : w.Proper) : Text.trim (· == '"') w.shown = w.value := by
  unfold shown
  cases w.quoted with
  | true =>
    have quote : ∀ c ∈ ['"'], (c == '"') = true := List.forall_mem_singleton.mpr rfl
    exact Text.trim_between quote h.value_unquoted quote
  | false => exact Text.trim_eq_self h.value_unquoted

/-- A pair is read back, whatever stands around its parts. -/
lemma Proper.ofPair?_toChars (h : w.Proper) :
    ofPair? w.toChars = some (String.ofList w.name, String.ofList w.value) := by
  have free : '=' ∉ w.before ++ w.name ++ w.beforeEquals := by
    simp only [List.mem_append, not_or]
    exact ⟨⟨h.before.free, h.name_free⟩, h.beforeEquals.free⟩
  rw [toChars_eq, ofPair?_append free, Text.trim_between h.before h.name_trimmed h.beforeEquals,
    if_neg h.named,
    Text.trim_between h.afterEquals h.shown_trimmed h.after, h.trim_shown]

/-- A pair may stand between semicolons. -/
lemma Proper.fits (h : w.Proper) : Fits w.toChars := by
  have shown : Fits w.shown := by
    unfold Written.shown
    cases w.quoted with
    | true => exact fits_append.mpr ⟨fits_cons.mpr ⟨by decide, h.value_fits⟩, by decide⟩
    | false => exact h.value_fits
  rw [toChars_eq]
  simp only [fits_append, fits_cons]
  exact ⟨⟨⟨h.before.fits, h.name_fits⟩, h.beforeEquals.fits⟩, by decide,
    ⟨h.afterEquals.fits, shown⟩, h.after.fits⟩

end Written

namespace Piece

/-- A piece that is what it is said to be. -/
def Proper : Piece → Prop
  | pair w => w.Proper
  | word text => Fits text ∧ '=' ∉ text
  | nameless blank value => Blank blank ∧ Fits value

instance : (p : Piece) → Decidable p.Proper
  | pair w => inferInstanceAs (Decidable w.Proper)
  | word _ => inferInstanceAs (Decidable (_ ∧ _))
  | nameless _ _ => inferInstanceAs (Decidable (_ ∧ _))

/-- The pair that a piece is. -/
def pair? : Piece → Option (String × String)
  | pair w => some (String.ofList w.name, String.ofList w.value)
  | word _ => none
  | nameless _ _ => none

variable {p : Piece}

/-- A piece is read as the pair that it is. -/
lemma ofPair?_toChars (h : p.Proper) : ofPair? p.toChars = p.pair? := by
  cases p with
  | pair w => exact Written.Proper.ofPair?_toChars h
  | word text => exact ofPair?_of_not_mem h.2
  | nameless blank value =>
    have empty : Text.trim isBlank blank = [] := by
      rw [← List.append_nil blank, Text.trim_append_left h.1, Text.trim_eq_self ⟨rfl, rfl⟩]
    rw [toChars, ofPair?_append h.1.free, if_pos empty, pair?]

/-- A piece may stand between semicolons. -/
lemma Proper.fits (h : p.Proper) : Fits p.toChars := by
  cases p with
  | pair w => exact Written.Proper.fits h
  | word text => exact h.1
  | nameless blank value => exact fits_append.mpr ⟨h.1.fits, fits_cons.mpr ⟨by decide, h.2⟩⟩

end Piece

/-- The pairs among some pieces are read from the line of all of them. -/
lemma ofLine_lineOf {ps : List Piece} (proper : ∀ p ∈ ps, p.Proper) :
    ofLine (lineOf ps) = ps.filterMap Piece.pair? := by
  rw [ofLine, lineOf, String.toList_ofList]
  exact Text.filterMap_splitOn_join rfl (fun p hp => (proper p hp).fits.free)
    fun p hp => Piece.ofPair?_toChars (proper p hp)

/-- A line of pieces is visible. -/
lemma visible_lineOf {ps : List Piece} (proper : ∀ p ∈ ps, p.Proper) :
    ∀ c ∈ (lineOf ps).toList, Bytes.IsVisibleChar c := by
  rw [lineOf, String.toList_ofList]
  intro c hc
  rcases Text.mem_join hc with rfl | ⟨f, hf, hc⟩
  · decide
  · obtain ⟨p, hp, rfl⟩ := List.mem_map.mp hf
    exact ((proper p hp).fits c hc).1

/-- A header value for cookies: pieces, or octets that are no printable text. -/
inductive Line where
  | pieces (ps : List Piece)
  | unreadable (v : HeaderValue)

namespace Line

/-- A line that can be sent, and that is readable or not as it is said. -/
def Proper : Line → Prop
  | pieces ps => ∀ p ∈ ps, p.Proper
  | unreadable v => ∃ b ∈ v.octets, Bytes.isVisible b = false

instance : (l : Line) → Decidable l.Proper
  | pieces ps => List.decidableBAll Piece.Proper ps
  | unreadable v => List.decidableBEx _ v.octets

/-- The header value. -/
def value? : Line → Option HeaderValue
  | pieces ps => HeaderValue.ofText? (lineOf ps)
  | unreadable v => some v

/-- The pairs of a line in their order. -/
def pairs : Line → List (String × String)
  | pieces ps => ps.filterMap Piece.pair?
  | unreadable _ => []

/-- The cookies of some header values. -/
def read (vs : List HeaderValue) : List (String × String) :=
  (vs.filterMap HeaderValue.text?).flatMap ofLine

/-- A line can be a header value, from which its pairs are read. -/
lemma Proper.exists_value {l : Line} (h : l.Proper) :
    ∃ v, l.value? = some v ∧ ∀ vs, read (v :: vs) = l.pairs ++ read vs := by
  cases l with
  | pieces ps =>
    obtain ⟨v, hv, text⟩ := HeaderValue.ofText?_of_visible (visible_lineOf h)
    refine ⟨v, hv, fun vs => ?_⟩
    rw [read, List.filterMap_cons_some text, List.flatMap_cons, ofLine_lineOf h]
    rfl
  | unreadable v =>
    obtain ⟨b, hb, hidden⟩ := h
    have text : v.text? = none := by
      rw [HeaderValue.text?, Bytes.visibleText?, if_neg]
      intro all
      rw [List.all_eq_true.mp all b hb] at hidden
      cases hidden
    refine ⟨v, rfl, fun vs => ?_⟩
    rw [read, List.filterMap_cons_none text]
    rfl

/-- Lines can be header values, from which their pairs are read in order. -/
lemma exists_values {lines : List Line} (proper : ∀ l ∈ lines, l.Proper) :
    ∃ vs, lines.mapM value? = some vs ∧ read vs = lines.flatMap pairs := by
  induction lines with
  | nil => exact ⟨[], rfl, rfl⟩
  | cons l lines ih =>
    obtain ⟨first, rest⟩ := List.forall_mem_cons.mp proper
    obtain ⟨v, hv, front⟩ := first.exists_value
    obtain ⟨vs, hvs, back⟩ := ih rest
    refine ⟨v :: vs, ?_, ?_⟩
    · rw [List.mapM_cons, hv, hvs]
      rfl
    · rw [front, back, List.flatMap_cons]

end Line

end Cookie

/-- A request with exactly these cookies in this order. -/
structure Request.Sends (r : Request) (pairs : List (String × String)) : Prop where
  all : r.cookies = pairs
  /-- A name has the value of the first pair with it. -/
  first : ∀ name value, r.cookie name = some value ↔
    ∃ before after, pairs = before ++ (name, value) :: after ∧ ∀ e ∈ before, e.1 ≠ name
  absent : ∀ name, r.cookie name = none ↔ ∀ e ∈ pairs, e.1 ≠ name

/-- Every request has the cookies that it has. -/
lemma Request.sends_cookies (r : Request) : r.Sends r.cookies := by
  have other (name : String) (e : String × String) : (name != e.1) = true ↔ e.1 ≠ name := by
    rw [bne_iff_ne, ne_comm]
  refine ⟨rfl, fun name value => ?_, fun name => ?_⟩
  · simp only [cookie, List.lookup_eq_some_iff, other]
  · simp only [cookie, List.lookup_eq_none_iff, other]

/--
Whatever lines of cookies a client writes, they can be sent, and the cookies of a request with them
are their pairs: neither what stands around the parts of a pair nor what stands between the pairs
matters.
-/
theorem Request.sends_lines {lines : List Cookie.Line} (proper : ∀ l ∈ lines, l.Proper) :
    ∃ vs, lines.mapM Cookie.Line.value? = some vs ∧
      ∀ r : Request, r.headers.values HeaderName.cookie = vs →
      r.Sends (lines.flatMap Cookie.Line.pairs) := by
  obtain ⟨vs, written, pairs⟩ := Cookie.Line.exists_values proper
  refine ⟨vs, written, fun r carried => ?_⟩
  have cookies : r.cookies = lines.flatMap Cookie.Line.pairs := by
    rw [← pairs, ← carried, Cookie.Line.read, Request.cookies]
  rw [← cookies]
  exact r.sends_cookies

/--
A name that comes twice, a value with equals signs, one with blanks in its quotes, and what counts
for nothing.
-/
def Cookie.strewn : List Cookie.Line :=
  [.pieces [.pair ⟨[' '], "id".toList, ['\t'], [' '], "a=b==".toList, false, []⟩,
    .word " flag ".toList,
      .pair ⟨[], "theme".toList, [], [' '], " dark \"red ".toList, true, ['\t']⟩,
      .nameless [' '] "\"lost\"".toList,
      .word []],
    .unreadable ⟨[0x69, 0x64, 0x3D, 0xE9], by decide⟩,
    .pieces [.pair ⟨[], "id".toList, [], [], [], true, []⟩,
      .pair ⟨[' '], "off".toList, [], [' '], [], false, []⟩]]

/-- The pairs of strewn lines are read, and the earlier of two pairs with one name counts. -/
theorem Request.sends_lines_strewn : (∀ l ∈ Cookie.strewn, l.Proper) ∧
    ∃ r : Request, (r.headers.values HeaderName.cookie).map HeaderValue.text? =
        [some " id\t= a=b==; flag ;theme= \" dark \"red \"\t; =\"lost\";", none,
        some "id=\"\"; off= "] ∧
      r.cookies = [("id", "a=b=="), ("theme", " dark \"red "), ("id", ""), ("off", "")] ∧
      r.cookie "id" = some "a=b==" ∧ r.cookie "off" = some "" ∧ r.cookie "flag" = none := by
  have proper : ∀ l ∈ Cookie.strewn, l.Proper := by decide
  obtain ⟨vs, written, sent⟩ := Request.sends_lines proper
  have texts : (Cookie.strewn.mapM Cookie.Line.value?).map (List.map HeaderValue.text?) =
      some [some " id\t= a=b==; flag ;theme= \" dark \"red \"\t; =\"lost\";", none,
      some "id=\"\"; off= "] := by
    decide +kernel
  rw [written, Option.map_some] at texts
  have filled : ∀ e ∈ [(HeaderName.cookie, vs)], e.2 ≠ [] := by
    rw [List.forall_mem_singleton]
    rintro rfl
    cases texts
  let carried : Headers := ⟨[(HeaderName.cookie, vs)], List.nodup_singleton _, filled⟩
  have sent := sent { Request.bare .get .root ⟨0⟩ with headers := carried } rfl
  refine ⟨proper, _, ?_, sent.all, ?_, ?_, ?_⟩
  · exact Option.some.inj texts
  · exact (sent.first _ _).mpr ⟨[], _, rfl, by decide⟩
  · exact (sent.first _ _).mpr ⟨[("id", "a=b=="), ("theme", " dark \"red "), ("id", "")], [],
      rfl, by decide⟩
  · exact (sent.absent _).mpr (by decide)

end Gatehouse
