import Gatehouse.Proofs.Text.Fields
import Gatehouse.Server.Routes
import Mathlib.Data.List.Forall2

/-!
# Which route a request takes

A pattern matches a path with some parameters exactly if it becomes the path when they are put in
the places of its names (`matches?_eq_some_iff`).  The route that is found is the earliest one that
matches, and none of this depends on how many slashes stand before, between and behind the segments
(`Respaced`).
-/

namespace Gatehouse

namespace Segment

/--
Texts that differ in slashes beside other slashes, at their beginnings and at their ends alone.
-/
inductive Respaced : List Char → List Char → Prop where
  | refl (cs) : Respaced cs cs
  | symm {cs ds} : Respaced cs ds → Respaced ds cs
  | trans {cs ds es} : Respaced cs ds → Respaced ds es → Respaced cs es
  | leading (cs) : Respaced cs ('/' :: cs)
  | trailing (cs) : Respaced cs (cs ++ ['/'])
  | doubled (cs ds) : Respaced (cs ++ '/' :: ds) (cs ++ '/' :: '/' :: ds)

/-- The segments on both sides of a slash. -/
lemma split_append (cs ds : List Char) : split (cs ++ '/' :: ds) = split cs ++ split ds := by
  rw [split, Text.splitOn_append, List.filter_append, split, split]

/-- Nothing has no segments. -/
lemma split_nil : split [] = [] := rfl

/-- A slash in front makes no segment. -/
lemma split_cons_slash (cs : List Char) : split ('/' :: cs) = split cs := split_append [] cs

/-- Slashes beside other slashes or at the ends make no segments. -/
lemma Respaced.split_eq {cs ds : List Char} (r : Respaced cs ds) : split cs = split ds := by
  induction r with
  | refl cs => rfl
  | symm _ ih => exact ih.symm
  | trans _ _ ih ih' => exact ih.trans ih'
  | leading cs => exact (split_cons_slash cs).symm
  | trailing cs => rw [split_append, split_nil, List.append_nil]
  | doubled cs ds => rw [split_append, split_append, split_cons_slash]

/-- A text that can stand between slashes. -/
def IsPart (s : List Char) : Prop := s ≠ [] ∧ '/' ∉ s

/-- Every segment can stand between slashes. -/
lemma isPart_of_mem_split {cs s : List Char} (hs : s ∈ split cs) : IsPart s := by
  obtain ⟨field, some⟩ := List.mem_filter.mp hs
  exact ⟨of_decide_eq_true some, Text.not_mem_of_mem_splitOn field⟩

/-- What can stand between slashes is one segment. -/
lemma split_of_isPart {s : List Char} (hs : IsPart s) : split s = [s] := by
  rw [split, Text.splitOn_of_not_mem hs.2]
  exact List.filter_cons_of_pos (decide_eq_true hs.1)

/-- The path with given segments. -/
def path : List (List Char) → List Char
  | [] => []
  | s :: ss => '/' :: s ++ path ss

/-- The segments of a path are those of which it was made. -/
lemma split_path {ss : List (List Char)} (parts : ∀ s ∈ ss, IsPart s) : split (path ss) = ss := by
  induction ss with
  | nil => rfl
  | cons s ss ih =>
    obtain ⟨first, rest⟩ := List.forall_mem_cons.mp parts
    have ih := ih rest
    rw [path, List.cons_append, split_cons_slash]
    cases ss with
    | nil => rw [path, List.append_nil, split_of_isPart first]
    | cons t ts =>
      rw [path, List.cons_append, split_cons_slash] at ih
      rw [path, List.cons_append, split_append, ih, split_of_isPart first, List.singleton_append]

/-- The names of the parameters, in order. -/
def names : List Segment → List (List Char)
  | [] => []
  | literal _ :: ss => names ss
  | parameter n :: ss => n :: names ss

/-- The path that a pattern becomes with one value for each parameter. -/
def fill : List Segment → List (List Char) → List (List Char)
  | [], _ => []
  | literal t :: ss, vs => t :: fill ss vs
  | parameter _ :: ss, v :: vs => v :: fill ss vs
  | parameter _ :: _, [] => []

/-- A pattern matches with the values that turn it into the path, each under its name. -/
lemma matches?_eq_some_iff {segments : List Segment} {parts : List (List Char)}
    {ps : List (List Char × List Char)} :
    matches? segments parts = some ps ↔
      ps.map Prod.fst = names segments ∧ fill segments (ps.map Prod.snd) = parts := by
  induction segments generalizing parts ps with
  | nil =>
    cases parts with
    | nil => cases ps <;> simp [matches?, names, fill]
    | cons p parts => cases ps <;> simp [matches?, names, fill]
  | cons s segments ih =>
    cases s with
    | literal t =>
      cases parts with
      | nil => simp [matches?, fill]
      | cons p parts =>
        by_cases same : t = p
        · simp [matches?, names, fill, same, ih]
        · simp [matches?, fill, same]
    | parameter n =>
      cases parts with
      | nil => cases ps <;> simp [matches?, names, fill]
      | cons p parts =>
        -- the first parameter takes the first part, and the others match what is left
        rw [matches?, Option.map_eq_some_iff]
        constructor
        · rintro ⟨qs, found, rfl⟩
          obtain ⟨named, filled⟩ := ih.mp found
          exact ⟨congrArg (n :: ·) named, congrArg (p :: ·) filled⟩
        · rintro ⟨named, filled⟩
          cases ps with
          | nil => cases named
          | cons q qs =>
            rw [List.map_cons, names, List.cons.injEq] at named
            rw [List.map_cons, fill, List.cons.injEq] at filled
            refine ⟨qs, ih.mpr ⟨named.2, filled.2⟩, ?_⟩
            rw [← named.1, ← filled.1]

/-- As many values as there are names make a path of all of them. -/
lemma isPart_of_mem_fill {segments : List Segment} {values : List (List Char)}
    (literals : ∀ t, literal t ∈ segments → IsPart t) (parts : ∀ v ∈ values, IsPart v) :
    ∀ s ∈ fill segments values, IsPart s := by
  induction segments generalizing values with
  | nil => exact fun s hs => absurd hs List.not_mem_nil
  | cons s segments ih =>
    have rest : ∀ t, literal t ∈ segments → IsPart t :=
      fun t ht => literals t (List.mem_cons_of_mem _ ht)
    cases s with
    | literal t =>
      rw [fill, List.forall_mem_cons]
      exact ⟨literals t List.mem_cons_self, ih rest parts⟩
    | parameter n =>
      cases values with
      | nil => exact fun s hs => absurd hs List.not_mem_nil
      | cons v values =>
        obtain ⟨first, others⟩ := List.forall_mem_cons.mp parts
        rw [fill, List.forall_mem_cons]
        exact ⟨first, ih rest others⟩

/-- Every value stands in the path that is filled with it. -/
lemma mem_fill {segments : List Segment} {values : List (List Char)}
    (enough : values.length = (names segments).length) :
    ∀ v ∈ values, v ∈ fill segments values := by
  induction segments generalizing values with
  | nil =>
    cases List.eq_nil_of_length_eq_zero enough
    exact fun v hv => hv
  | cons s segments ih =>
    cases s with
    | literal t => exact fun v hv => List.mem_cons_of_mem _ (ih enough v hv)
    | parameter n =>
      cases values with
      | nil => exact fun v hv => absurd hv List.not_mem_nil
      | cons v values =>
        intro w hw
        rcases List.mem_cons.mp hw with rfl | hw
        · exact List.mem_cons_self
        · exact List.mem_cons_of_mem _ (ih (Nat.succ.inj enough) w hw)

/-- The literals of a pattern can stand between slashes. -/
lemma isPart_of_literal_mem {cs t : List Char} (ht : literal t ∈ ofPattern cs) : IsPart t := by
  obtain ⟨part, mem, e⟩ := List.mem_map.mp ht
  unfold ofPart at e
  split at e
  case h_1 => cases e
  case h_2 =>
    cases e
    exact isPart_of_mem_split mem

end Segment

namespace Route

/-- Parameters under the pattern's names whose values turn the pattern into the path. -/
structure Turns (r : Route) (ps : PathParams) (path : String) : Prop where
  names : ps.pairs.map (fun p => p.1.toList) = Segment.names (Segment.ofPattern r.pattern.toList)
  path : Segment.fill (Segment.ofPattern r.pattern.toList) (ps.pairs.map fun p => p.2.toList) =
    Segment.split path.toList

/-- Routes whose patterns differ in their slashes alone. -/
structure Respaced (r r' : Route) : Prop where
  method : r.method = r'.method
  chain : r.chain = r'.chain
  handler : r.handler = r'.handler
  pattern : Segment.Respaced r.pattern.toList r'.pattern.toList

variable {r r' : Route} {path path' : String} {ps : PathParams}

/-- A route matches a path with just those parameters that turn its pattern into the path. -/
lemma matchPath?_eq_some_iff : r.matchPath? path = some ps ↔ r.Turns ps path := by
  rw [matchPath?, Option.map_eq_some_iff]
  constructor
  · rintro ⟨qs, found, rfl⟩
    obtain ⟨named, filled⟩ := Segment.matches?_eq_some_iff.mp found
    constructor
    · simpa [Function.comp_def] using named
    · simpa [Function.comp_def] using filled
  · rintro ⟨named, filled⟩
    refine ⟨ps.pairs.map fun p => (p.1.toList, p.2.toList),
      Segment.matches?_eq_some_iff.mpr ⟨?_, ?_⟩, ?_⟩
    · simpa [Function.comp_def] using named
    · simpa [Function.comp_def] using filled
    · obtain ⟨pairs⟩ := ps
      simp [Function.comp_def]

/-- Slashes beside other slashes or at the ends change no match. -/
lemma matchPath?_congr (pattern : Segment.Respaced r.pattern.toList r'.pattern.toList)
    (same : Segment.Respaced path.toList path'.toList) :
    r.matchPath? path = r'.matchPath? path' := by
  rw [matchPath?, matchPath?, Segment.ofPattern, Segment.ofPattern, pattern.split_eq, same.split_eq]

/-- Each value is a part of the path. -/
lemma Turns.isPart (t : r.Turns ps path) : ∀ p ∈ ps.pairs, Segment.IsPart p.2.toList := by
  intro p hp
  have enough := congrArg List.length t.names
  rw [List.length_map] at enough
  have there : p.2.toList ∈ Segment.split path.toList := by
    rw [← t.path]
    apply Segment.mem_fill
    · rw [List.length_map, enough]
    · exact List.mem_map_of_mem hp
  exact Segment.isPart_of_mem_split there

/-- The path that the pattern becomes with given values. -/
def pathWith (r : Route) (values : List String) : String :=
  String.ofList (Segment.path
    (Segment.fill (Segment.ofPattern r.pattern.toList) (values.map String.toList)))

/-- Parameters turn a pattern into the path with their values. -/
lemma turns_pathWith (named : ps.pairs.map (fun p => p.1.toList) =
    Segment.names (Segment.ofPattern r.pattern.toList))
    (parts : ∀ p ∈ ps.pairs, Segment.IsPart p.2.toList) :
    r.Turns ps (r.pathWith (ps.pairs.map Prod.snd)) := by
  refine ⟨named, ?_⟩
  rw [pathWith, String.toList_ofList, List.map_map, Segment.split_path]
  · rfl
  · apply Segment.isPart_of_mem_fill
    · exact fun t ht => Segment.isPart_of_literal_mem ht
    · intro v hv
      obtain ⟨p, hp, rfl⟩ := List.mem_map.mp hv
      exact parts p hp

end Route

namespace Routes

variable {rs rs' : Routes} {method : Method} {path path' : String}

/-- A route of the right method whose pattern matches, with its parameters. -/
def take? (method : Method) (path : String) (r : Route) : Option (Route × PathParams) :=
  if r.method = method then (r.matchPath? path).map fun ps => (r, ps) else none

/-- A route is looked for in the order of the routes. -/
lemma find?_eq (rs : Routes) (method : Method) (path : String) :
    rs.find? method path = rs.findSome? (take? method path) := by
  induction rs with
  | nil => rfl
  | cons r rs ih =>
    rw [find?] at ih
    rw [find?, List.filter_cons, List.findSome?_cons, take?, ← ih]
    by_cases h : r.method = method
    · rw [if_pos (decide_eq_true h), if_pos h, List.findSome?_cons]
    · rw [if_neg (mt of_decide_eq_true h), if_neg h]

/-- A route is taken if the method is its own and the pattern matches. -/
lemma take?_eq_some_iff {r : Route} {x : Route × PathParams} :
    take? method path r = some x ↔ r.method = method ∧ r = x.1 ∧ r.matchPath? path = some x.2 := by
  unfold take?
  split
  case isTrue h =>
    rw [Option.map_eq_some_iff, and_iff_right h]
    constructor
    · rintro ⟨ps, found, rfl⟩
      exact ⟨rfl, found⟩
    · rintro ⟨rfl, found⟩
      exact ⟨x.2, found, rfl⟩
  case isFalse h => exact iff_of_false nofun fun k => h k.1

/-- A route is not taken if its pattern does not match under its method. -/
lemma take?_eq_none_iff {r : Route} :
    take? method path r = none ↔ (r.method = method → r.matchPath? path = none) := by
  unfold take?
  split
  case isTrue h => rw [Option.map_eq_none_iff, forall_prop_of_true h]
  case isFalse h => exact iff_of_true rfl fun k => absurd k h

/-- The route that is found is the first of those that match. -/
lemma find?_eq_some_iff {r : Route} {ps : PathParams} : rs.find? method path = some (r, ps) ↔
    ∃ before after, rs = before ++ r :: after ∧ r.method = method ∧ r.matchPath? path = some ps ∧
      ∀ r' ∈ before, r'.method = method → r'.matchPath? path = none := by
  rw [find?_eq, List.findSome?_eq_some_iff]
  constructor
  · rintro ⟨before, r', after, parts, taken, passed⟩
    obtain ⟨right, rfl, found⟩ := take?_eq_some_iff.mp taken
    exact ⟨before, after, parts, right, found, fun r' hr' => take?_eq_none_iff.mp (passed r' hr')⟩
  · rintro ⟨before, after, parts, right, found, passed⟩
    exact ⟨before, r, after, parts, take?_eq_some_iff.mpr ⟨right, rfl, found⟩,
      fun r' hr' => take?_eq_none_iff.mpr (passed r' hr')⟩

/-- No route is found if none matches under its method. -/
lemma find?_eq_none_iff :
    rs.find? method path = none ↔ ∀ r ∈ rs, r.method = method → r.matchPath? path = none := by
  rw [find?_eq, List.findSome?_eq_none_iff]
  exact forall₂_congr fun r _ => take?_eq_none_iff

/-- A route that is found stays found when others are added. -/
lemma find?_append_of_some {x : Route × PathParams} (found : rs.find? method path = some x)
    (more : Routes) :
    Routes.find? (rs ++ more) method path = some x := by
  rw [find?_eq] at found ⊢
  exact (List.prefix_append rs more).findSome?_eq_some found

/--
Two searches that find nothing, or routes with the same slashes aside, and the same parameters.
-/
inductive FoundAlike : Option (Route × PathParams) → Option (Route × PathParams) → Prop where
  | none : FoundAlike none none
  | some {r r'} (ps) : r.Respaced r' → FoundAlike (some (r, ps)) (some (r', ps))

/-- Slashes beside other slashes or at the ends change nothing of what is found. -/
lemma foundAlike (alike : List.Forall₂ Route.Respaced rs rs')
    (same : Segment.Respaced path.toList path'.toList) :
    FoundAlike (rs.find? method path) (rs'.find? method path') := by
  rw [find?_eq, find?_eq]
  induction alike with
  | nil => exact .none
  | @cons r r' rs rs' first rest ih =>
    rw [List.findSome?_cons, List.findSome?_cons, take?, take?, first.method,
      Route.matchPath?_congr first.pattern same]
    by_cases right : r'.method = method
    · rw [if_pos right, if_pos right]
      cases r'.matchPath? path' with
      | none => exact ih
      | some ps => exact .some ps first
    · rw [if_neg right, if_neg right]
      exact ih

end Routes

/--
A route that matches exactly the paths that its pattern becomes with values for its parameters.
-/
structure Route.MatchesExactly (r : Route) : Prop where
  turned : ∀ path ps, r.matchPath? path = some ps ↔ r.Turns ps path
  parts : ∀ path ps, r.matchPath? path = some ps → ∀ p ∈ ps.pairs, p.2 ≠ "" ∧ '/' ∉ p.2.toList
  /--
  Any values that are parts of a path are found again in the path that the pattern becomes with
  them.
  -/
  back : ∀ ps : PathParams, ps.pairs.map (fun p => p.1.toList) =
    Segment.names (Segment.ofPattern r.pattern.toList) →
    (∀ p ∈ ps.pairs, p.2 ≠ "" ∧ '/' ∉ p.2.toList) →
    r.matchPath? (r.pathWith (ps.pairs.map Prod.snd)) = some ps

/-- A text can stand between slashes if it is not empty and has none. -/
lemma Segment.isPart_toList {s : String} : IsPart s.toList ↔ s ≠ "" ∧ '/' ∉ s.toList := by
  rw [IsPart, ne_eq, String.toList_eq_nil_iff]

/-- Every route matches exactly what its pattern becomes. -/
lemma Route.matchesExactly (r : Route) : r.MatchesExactly := by
  constructor
  case turned => exact fun path ps => matchPath?_eq_some_iff
  case parts =>
    intro path ps found p hp
    rw [← Segment.isPart_toList]
    exact (matchPath?_eq_some_iff.mp found).isPart p hp
  case back =>
    intro ps named parts
    apply matchPath?_eq_some_iff.mpr
    apply turns_pathWith named
    exact fun p hp => Segment.isPart_toList.mpr (parts p hp)

/--
Routes of which the earliest that matches is found, whatever slashes there are and whatever comes
behind it.
-/
structure Routes.FindsFirst (rs : Routes) : Prop where
  found : ∀ method path r ps, rs.find? method path = some (r, ps) ↔
    ∃ before after, rs = before ++ r :: after ∧ r.method = method ∧ r.matchPath? path = some ps ∧
      ∀ r' ∈ before, r'.method = method → r'.matchPath? path = none
  missed : ∀ method path, rs.find? method path = none ↔ ∀ r ∈ rs, r.method = method →
    r.matchPath? path = none
  respaced : ∀ (rs' : Routes) method path path', List.Forall₂ Route.Respaced rs rs' →
    Segment.Respaced path.toList path'.toList →
    FoundAlike (rs.find? method path) (rs'.find? method path')
  extended : ∀ (more : Routes) method path x, rs.find? method path = some x →
    Routes.find? (rs ++ more) method path = some x

/-- Routes match exactly what their patterns write, and the earliest one that matches is taken. -/
theorem Routes.routing_exact : (∀ r : Route, r.MatchesExactly) ∧ ∀ rs : Routes, rs.FindsFirst := by
  refine ⟨Route.matchesExactly, fun rs => ?_⟩
  constructor
  case found => exact fun _ _ _ _ => find?_eq_some_iff
  case missed => exact fun _ _ => find?_eq_none_iff
  case respaced => exact fun _ _ _ _ alike same => foundAlike alike same
  case extended => exact fun more _ _ _ found => find?_append_of_some found more

example : Segment.matches? (Segment.ofPattern "/forms//:id/".toList)
    (Segment.split "//forms/7".toList) =
    some [("id".toList, "7".toList)] := by decide

end Gatehouse
