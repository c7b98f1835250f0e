import Gatehouse.Http.Request
import Gatehouse.Proofs.Text.Fields

/-!
# Parameters of a query

The items of a query are read back as they were written (`Query.items_ofItems`), so a parameter is
looked up among the items: the first one with its key gives the value (`Request.finds_items`).  A
target of a path and such a query is read with exactly this query (`Uri.parseChars?_origin`).
-/

namespace Gatehouse

namespace Query

/-- An item as it is written. -/
inductive Item where
  | empty
  | bare (key : List Char)
  | pair (key value : List Char)
deriving DecidableEq, Repr

/-- The text of an item. -/
def Item.toChars : Item → List Char
  | empty => []
  | bare key => key
  | pair key value => key ++ '=' :: value

/-- The query of items. -/
def ofItems (is : List Item) : String := String.ofList (Text.join '&' (is.map Item.toChars))

namespace Item

/--
An item that is written as such: its parts do not hold the marks that part items and keys from
values.
-/
def Proper : Item → Prop
  | empty => True
  | bare key => key ≠ [] ∧ '&' ∉ key ∧ '=' ∉ key
  | pair key value => '&' ∉ key ∧ '=' ∉ key ∧ '&' ∉ value

instance : (i : Item) → Decidable i.Proper
  | empty => inferInstanceAs (Decidable True)
  | bare _ => inferInstanceAs (Decidable (_ ∧ _))
  | pair _ _ => inferInstanceAs (Decidable (_ ∧ _))

/-- The key and the value of an item; a key alone has the empty value. -/
def entry? : Item → Option (List Char × List Char)
  | empty => none
  | bare key => some (key, [])
  | pair key value => some (key, value)

/-- The key of an item. -/
def key? (i : Item) : Option (List Char) := i.entry?.map Prod.fst

variable {i : Item}

/-- An item that is written as such holds no mark between items. -/
lemma Proper.free (h : i.Proper) : '&' ∉ i.toChars := by
  cases i with
  | empty => exact List.not_mem_nil
  | bare key => exact h.2.1
  | pair key value =>
    rw [toChars, List.mem_append, List.mem_cons, not_or, not_or]
    exact ⟨h.1, by decide, h.2.2⟩

/-- An item is read back. -/
lemma Proper.ofItem?_toChars (h : i.Proper) : ofItem? i.toChars = i.entry? := by
  cases i with
  | empty => rfl
  | bare key =>
    rw [toChars, ofItem?, Text.cut?_of_not_mem h.2.2]
    exact if_neg h.1
  | pair key value => rw [toChars, ofItem?, Text.cut?_append h.2.1, entry?]

/-- What an item answers to a key. -/
def answer? (key : String) (i : Item) : Option String :=
  match i.entry? with
  | some (k, v) => if k = key.toList then some (String.ofList v) else none
  | none => none

/-- An item answers to its own key with its value. -/
lemma answer?_eq_some_iff {key value : String} :
    i.answer? key = some value ↔ i.entry? = some (key.toList, value.toList) := by
  unfold answer?
  cases i.entry? with
  | none => exact iff_of_false nofun nofun
  | some e =>
    obtain ⟨k, v⟩ := e
    have text : String.ofList v = value ↔ v = value.toList := by
      rw [← String.toList_inj, String.toList_ofList]
    simp only [Option.ite_none_right_eq_some, Option.some.injEq, text, Prod.mk.injEq]

/-- An item does not answer to other keys. -/
lemma answer?_eq_none_iff {key : String} : i.answer? key = none ↔ i.key? ≠ some key.toList := by
  unfold answer? key?
  cases i.entry? with
  | none => exact iff_of_true rfl nofun
  | some e =>
    obtain ⟨k, v⟩ := e
    simp only [ite_eq_right_iff, reduceCtorEq, imp_false, Option.map_some, ne_eq, Option.some.injEq]

end Item

variable {is : List Item}

/-- The items of a query are read back, the empty ones apart. -/
lemma items_ofItems (proper : ∀ i ∈ is, i.Proper) :
    items (ofItems is) = is.filterMap Item.entry? := by
  rw [items, ofItems, String.toList_ofList]
  exact Text.filterMap_splitOn_join rfl (fun i hi => (proper i hi).free) fun i hi =>
    (proper i hi).ofItem?_toChars

/-- The first item that answers to a key is what is found. -/
lemma get?_ofItems (proper : ∀ i ∈ is, i.Proper) (key : String) :
    get? (ofItems is) key = is.findSome? (Item.answer? key) := by
  rw [get?, items_ofItems proper]
  induction is with
  | nil => rfl
  | cons i is ih =>
    have ih := ih fun j hj => proper j (List.mem_cons_of_mem i hj)
    rw [List.findSome?_cons, Item.answer?]
    cases h : i.entry? with
    | none => rw [List.filterMap_cons_none h, ih]
    | some e =>
      obtain ⟨k, v⟩ := e
      rw [List.filterMap_cons_some h, List.find?_cons]
      by_cases same : k = key.toList
      · simp only [same, beq_self_eq_true, Option.map_some, if_true]
      · simp only [beq_false_of_ne same, if_neg same, ih]

end Query

namespace Uri

/-- A character of a path is no mark of a query or a fragment. -/
lemma ne_of_isPathChar {c : Char} (h : isPathChar c = true) : c ≠ '?' ∧ c ≠ '#' := by
  constructor
  · rintro rfl
    cases h
  · rintro rfl
    cases h

/-- A path and a query are read up to the end of the text. -/
lemma pathAndQuery?_append {path query : List Char} (hp : ∀ c ∈ path, isPathChar c = true)
    (hq : ∀ c ∈ query, isQueryChar c = true) :
    pathAndQuery? (path ++ '?' :: query) = some (path, some query) := by
  have inPath : ∀ c ∈ path, decide (c ≠ '?' ∧ c ≠ '#') = true :=
    fun c hc => decide_eq_true (ne_of_isPathChar (hp c hc))
  have inQuery : ∀ c ∈ query, decide (c ≠ '#') = true := by
    intro c hc
    refine decide_eq_true ?_
    rintro rfl
    cases hq '#' hc
  have front : (path ++ '?' :: query).takeWhile (fun c => decide (c ≠ '?' ∧ c ≠ '#')) = path := by
    rw [List.takeWhile_append_of_pos inPath, List.takeWhile_cons_of_neg (by decide),
      List.append_nil]
  have back : query.takeWhile (fun c => decide (c ≠ '#')) = query :=
    List.takeWhile_eq_self_iff.mpr inQuery
  simp only [pathAndQuery?, front, List.all_eq_true.mpr hp, not_true_eq_false, if_false,
    List.drop_left, back, List.all_eq_true.mpr hq, if_true]

/-- A target of a path and a query is read with exactly this query. -/
lemma parseChars?_origin (path query : List Char) (hp : ∀ c ∈ path, isPathChar c = true)
    (hq : ∀ c ∈ query, isQueryChar c = true)
    (short : (Bytes.ofChars ('/' :: path ++ '?' :: query)).length ≤ longest) :
    parseChars? ('/' :: path ++ '?' :: query) = some ⟨none, [], '/' :: path, some query⟩ := by
  have hp : ∀ c ∈ '/' :: path, isPathChar c = true := List.forall_mem_cons.mpr ⟨rfl, hp⟩
  have parts := pathAndQuery?_append hp hq
  rw [List.cons_append] at parts short ⊢
  rw [parseChars?, if_neg (Nat.not_lt.mpr short)]
  simp only [parts, Option.map_some]

end Uri

/-- What is promised of looking up parameters in a query of some items. -/
structure Request.Finds (r : Request) (is : List Query.Item) : Prop where
  /-- The first item with the key gives the value. -/
  first : ∀ key value, r.queryParam key = some value ↔
    ∃ before i after, is = before ++ i :: after ∧ i.entry? = some (key.toList, value.toList) ∧
      ∀ j ∈ before, j.key? ≠ some key.toList
  absent : ∀ key, r.queryParam key = none ↔ ∀ i ∈ is, i.key? ≠ some key.toList
  /-- Items with other keys in front change nothing. -/
  prepended : ∀ (r' : Request) (front : List Query.Item) (key : String),
    (∀ i ∈ front, i.Proper ∧ i.key? ≠ some key.toList) →
    r'.uri.query = some (Query.ofItems (front ++ is)) →
      r'.queryParam key = r.queryParam key
  /-- Nothing that comes behind a match changes it. -/
  appended : ∀ (r' : Request) (back : List Query.Item) (key : String), (∀ i ∈ back, i.Proper) →
    (∃ i ∈ is, i.key? = some key.toList) → r'.uri.query = some (Query.ofItems (is ++ back)) →
      r'.queryParam key = r.queryParam key

/-- A parameter is looked up in the items in their order. -/
lemma Request.queryParam_eq {r : Request} {is : List Query.Item} (proper : ∀ i ∈ is, i.Proper)
    (written : r.uri.query = some (Query.ofItems is)) (key : String) :
    r.queryParam key = is.findSome? (Query.Item.answer? key) := by
  rw [queryParam, written, Option.bind_some, Query.get?_ofItems proper]

/--
A parameter is looked up in a query by comparing its name with the keys of the items, in their
order.
-/
theorem Request.finds_items {is : List Query.Item} (proper : ∀ i ∈ is, i.Proper) (r : Request)
    (written : r.uri.query = some (Query.ofItems is)) : r.Finds is := by
  have found := queryParam_eq proper written
  constructor
  case first =>
    intro key value
    simp only [found, List.findSome?_eq_some_iff, Query.Item.answer?_eq_some_iff,
      Query.Item.answer?_eq_none_iff]
  case absent =>
    intro key
    simp only [found, List.findSome?_eq_none_iff, Query.Item.answer?_eq_none_iff]
  case prepended =>
    intro r' front key others written'
    have proper' : ∀ i ∈ front ++ is, i.Proper :=
      List.forall_mem_append.mpr ⟨fun i hi => (others i hi).1, proper⟩
    have silent : front.findSome? (Query.Item.answer? key) = none :=
      List.findSome?_eq_none_iff.mpr fun i hi => Query.Item.answer?_eq_none_iff.mpr (others i hi).2
    rw [queryParam_eq proper' written', found, List.findSome?_append, silent, Option.none_or]
  case appended =>
    intro r' back key proper' there written'
    have proper' : ∀ i ∈ is ++ back, i.Proper := List.forall_mem_append.mpr ⟨proper, proper'⟩
    have speaks : (is.findSome? (Query.Item.answer? key)).isSome := by
      obtain ⟨i, hi, named⟩ := there
      rw [Option.isSome_iff_ne_none]
      intro silent
      exact Query.Item.answer?_eq_none_iff.mp (List.findSome?_eq_none_iff.mp silent i hi) named
    rw [queryParam_eq proper' written', found, List.findSome?_append, Option.or_of_isSome speaks]

/--
A key that comes twice, a key alone, an empty item, an empty key and a value with an equals sign.
-/
def Query.forms : List Query.Item :=
  [.pair "page".toList "2".toList, .bare "flag".toList, .empty, .pair [] "x".toList,
    .pair "sort".toList "a=b".toList,
    .pair "page".toList "3".toList]

/-- A request for forms with a query. -/
def Request.forForms (query : String) : Request :=
  .bare .get ⟨none, [], "/forms".toList, some query.toList⟩ ⟨0⟩

/--
Each key of a target has the value of its first item, and empty items have no key, not even the
empty one.
-/
theorem Request.finds_items_forms : (∀ i ∈ Query.forms, i.Proper) ∧
    (∃ r : Request, Uri.parse? "/forms?page=2&flag&&=x&sort=a=b&page=3" = some r.uri ∧
      r.uri.query = some (Query.ofItems Query.forms) ∧ r.queryParam "page" = some "2" ∧
      r.queryParam "flag" = some "" ∧
      r.queryParam "" = some "x" ∧ r.queryParam "sort" = some "a=b" ∧ r.queryParam "form" = none) ∧
    ∃ r : Request, Uri.parse? "/forms?&&flag" = some r.uri ∧ r.queryParam "" = none := by
  have proper : ∀ i ∈ Query.forms, i.Proper := by decide
  have empties : ∀ i ∈ [Query.Item.empty, .empty, .bare "flag".toList], i.Proper := by decide
  refine ⟨proper, ⟨forForms "page=2&flag&&=x&sort=a=b&page=3", ?_⟩, forForms "&&flag", ?_⟩
  · have found := finds_items proper (forForms "page=2&flag&&=x&sort=a=b&page=3") rfl
    refine ⟨?_, rfl, ?_, ?_, ?_, ?_, ?_⟩
    · exact Uri.parseChars?_origin "forms".toList _ (List.all_eq_true.mp (by decide))
        (List.all_eq_true.mp (by decide)) (by decide)
    · exact (found.first _ _).mpr ⟨[], _, _, rfl, rfl, by decide⟩
    · exact (found.first _ _).mpr ⟨Query.forms.take 1, _, _, rfl, rfl, by decide⟩
    · exact (found.first _ _).mpr ⟨Query.forms.take 3, _, _, rfl, rfl, by decide⟩
    · exact (found.first _ _).mpr ⟨Query.forms.take 4, _, _, rfl, rfl, by decide⟩
    · exact (found.absent _).mpr (by decide)
  · have found := finds_items empties (forForms "&&flag") rfl
    refine ⟨?_, (found.absent _).mpr (by decide)⟩
    exact Uri.parseChars?_origin "forms".toList _ (List.all_eq_true.mp (by decide))
      (List.all_eq_true.mp (by decide)) (by decide)

end Gatehouse
