import Gatehouse.Proofs.Http.SameBut

/-!
# Header maps as lists of pairs

A header map is what its pairs make when they are added one after the other
(`Headers.ofList_toList`): the first value of a name adds the name at the end, and the others follow
it.
-/

namespace Gatehouse.Headers

/-- The entries after a value was added to those of its name. -/
def added (es : Named (List HeaderValue)) (p : HeaderName × HeaderValue) :
    Named (List HeaderValue) :=
  es.alter p.1 fun vs => vs.getD [] ++ [p.2]

/-- The pairs of entries, name by name. -/
def pairs (es : Named (List HeaderValue)) : List (HeaderName × HeaderValue) :=
  es.flatMap fun e => e.2.map fun v => (e.1, v)

/-- Pairs are added to a map as they are to its entries. -/
lemma entries_foldl_append (ps : List (HeaderName × HeaderValue)) (h : Headers) :
    (ps.foldl (fun h p => h.append p.1 p.2) h).entries = ps.foldl added h.entries := by
  induction ps generalizing h with
  | nil => rfl
  | cons p ps ih => rw [List.foldl_cons, List.foldl_cons, ih]; rfl

/-- Values that are added to the last name stand behind those that it has. -/
lemma foldl_added_last {name : HeaderName} {es : Named (List HeaderValue)} (fresh : name ∉ es.keys)
    (given vs : List HeaderValue) :
    (vs.map fun v => (name, v)).foldl added (es ++ [(name, given)]) =
      es ++ [(name, given ++ vs)] := by
  induction vs generalizing given with
  | nil => rw [List.append_nil, List.map_nil, List.foldl_nil]
  | cons v vs ih =>
    have one : added (es ++ [(name, given)]) (name, v) = es ++ [(name, given ++ [v])] := by
      rw [added, Named.alter_append fresh, Named.alter, if_pos rfl, Option.getD_some]
    rw [List.map_cons, List.foldl_cons, one, ih, List.append_assoc, List.singleton_append]

/-- Names with values that are added behind others stand behind them. -/
lemma foldl_added {given es : Named (List HeaderValue)} (distinct : (given ++ es).keys.Nodup)
    (filled : ∀ e ∈ es, e.2 ≠ []) : (pairs es).foldl added given = given ++ es := by
  induction es generalizing given with
  | nil => rw [List.append_nil, pairs, List.flatMap_nil, List.foldl_nil]
  | cons e es ih =>
    obtain ⟨name, vs⟩ := e
    have fresh : name ∉ given.keys := by
      intro there
      rw [Named.keys, List.map_append, List.map_cons] at distinct
      exact List.disjoint_of_nodup_append distinct there List.mem_cons_self
    cases vs with
    | nil => exact absurd rfl (filled _ List.mem_cons_self)
    | cons v vs =>
      have first : added given (name, v) = given ++ [(name, [v])] := by
        rw [added, Named.alter_eq_of_fresh fresh, Option.getD_none, List.nil_append]
      have parts : pairs ((name, v :: vs) :: es) =
          (name, v) :: ((vs.map fun v => (name, v)) ++ pairs es) := by
        rw [pairs, List.flatMap_cons, List.map_cons, List.cons_append, pairs]
      rw [parts, List.foldl_cons, first, List.foldl_append, foldl_added_last fresh,
        List.singleton_append, ih]
      · rw [List.append_assoc, List.singleton_append]
      · rw [List.append_assoc, List.singleton_append]
        exact distinct
      · exact fun e he => filled e (List.mem_cons_of_mem _ he)

/-- A header map is what its pairs make. -/
lemma ofList_toList (h : Headers) : ofList h.toList = h :=
  Headers.ext ((entries_foldl_append _ _).trans (@foldl_added [] _ h.distinct h.filled))

end Gatehouse.Headers
