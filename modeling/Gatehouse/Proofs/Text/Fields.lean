import Gatehouse.Text.Ascii
import Mathlib.Data.List.DropRight
import Mathlib.Tactic.Lemma

/-!
# How texts fall into fields

A separator parts a text: the fields of a text with a separator in it are those before and those
behind it (`splitOn_append`), and no field holds a separator.  So fields that are joined are the
fields of the text again (`splitOn_join`), and the fields of a text make it when they are joined
(`join_splitOn`).  With a separator of several characters nothing is lost either
(`intercalate_splitOnMany`), and a text is one field exactly if the separator does not stand in it.
Trimming cuts off what stands around a text that is trimmed already, and it does not matter whether
a text is trimmed before it is cut in two (`cut?_trim_append`).
-/

namespace Gatehouse.Text

variable {α : Type}

/-- Fields written one after the other with the separator between them. -/
def join (sep : α) : List (List α) → List α
  | [] => []
  | [f] => f
  | f :: g :: fs => f ++ sep :: join sep (g :: fs)

variable [DecidableEq α] {sep : α}

/-- Splitting loses nothing. -/
lemma join_splitOn (sep : α) (cs : List α) : join sep (splitOn sep cs) = cs := by
  induction cs with
  | nil => rfl
  | cons c cs ih =>
    by_cases h : c = sep
    · subst h
      rw [splitOn_cons_sep]
      cases e : splitOn c cs with
      | nil => exact absurd e (splitOn_ne_nil c cs)
      | cons f fs => rw [e] at ih; simp [join, ih]
    · obtain ⟨f, fs, e, e'⟩ := splitOn_cons_ne h cs
      rw [e] at ih
      rw [e']
      cases fs <;> simp_all [join]

/-- The fields on both sides of a separator. -/
lemma splitOn_append (a b : List α) :
    splitOn sep (a ++ sep :: b) = splitOn sep a ++ splitOn sep b := by
  induction a with
  | nil => exact splitOn_cons_sep sep b
  | cons c a ih =>
    rw [List.cons_append]
    by_cases h : c = sep
    · subst h
      rw [splitOn_cons_sep, splitOn_cons_sep, ih, List.cons_append]
    · obtain ⟨f, fs, e, e'⟩ := splitOn_cons_ne h a
      obtain ⟨g, gs, e₁, e₁'⟩ := splitOn_cons_ne h (a ++ sep :: b)
      rw [ih, e, List.cons_append, List.cons.injEq] at e₁
      rw [e₁', e', ← e₁.1, ← e₁.2, List.cons_append]

/-- No separator stands in a field. -/
lemma not_mem_of_mem_splitOn {cs f : List α} (hf : f ∈ splitOn sep cs) : sep ∉ f := by
  induction cs generalizing f with
  | nil =>
    cases List.mem_singleton.mp hf
    exact List.not_mem_nil
  | cons c cs ih =>
    by_cases h : c = sep
    · subst h
      rw [splitOn_cons_sep] at hf
      rcases List.mem_cons.mp hf with rfl | hf
      · exact List.not_mem_nil
      · exact ih hf
    · obtain ⟨g, gs, e, e'⟩ := splitOn_cons_ne h cs
      rw [e'] at hf
      rw [e] at ih
      rcases List.mem_cons.mp hf with rfl | hf
      · rw [List.mem_cons, not_or]
        exact ⟨Ne.symm h, ih List.mem_cons_self⟩
      · exact ih (List.mem_cons_of_mem _ hf)

/-- A text without separator is one field. -/
lemma splitOn_of_not_mem {f : List α} (hf : sep ∉ f) : splitOn sep f = [f] := by
  induction f with
  | nil => rfl
  | cons c f ih =>
    rw [List.mem_cons, not_or] at hf
    obtain ⟨g, gs, e, e'⟩ := splitOn_cons_ne (Ne.symm hf.1) f
    rw [ih hf.2] at e
    cases e
    exact e'

/-- Fields that are joined are the fields of the text again. -/
lemma splitOn_join {fs : List (List α)} (proper : ∀ f ∈ fs, sep ∉ f) (some : fs ≠ []) :
    splitOn sep (join sep fs) = fs := by
  induction fs with
  | nil => exact absurd rfl some
  | cons f fs ih =>
    obtain ⟨first, rest⟩ := List.forall_mem_cons.mp proper
    cases fs with
    | nil => exact splitOn_of_not_mem first
    | cons g fs =>
      rw [join, splitOn_append, splitOn_of_not_mem first, ih rest (List.cons_ne_nil g fs),
        List.singleton_append]

/-- A character of joined fields is a separator or stands in one of them. -/
lemma mem_join {β : Type} {sep c : β} {fs : List (List β)} (h : c ∈ join sep fs) :
    c = sep ∨ ∃ f ∈ fs, c ∈ f := by
  induction fs with
  | nil => cases h
  | cons f fs ih =>
    cases fs with
    | nil => exact .inr ⟨f, List.mem_cons_self, h⟩
    | cons g fs =>
      rcases List.mem_append.mp h with h | h
      · exact .inr ⟨f, List.mem_cons_self, h⟩
      rcases List.mem_cons.mp h with h | h
      · exact .inl h
      rcases ih h with h | ⟨f', hf, h⟩
      · exact .inl h
      · exact .inr ⟨f', List.mem_cons_of_mem f hf, h⟩

/--
What is written into fields is read back if no separator is written and an empty field counts for
nothing.
-/
lemma filterMap_splitOn_join {β γ : Type} {write : β → List α} {read : List α → Option γ}
    {entry : β → Option γ} {xs : List β} (blank : read [] = none) (free : ∀ x ∈ xs, sep ∉ write x)
    (back : ∀ x ∈ xs, read (write x) = entry x) :
    (splitOn sep (join sep (xs.map write))).filterMap read = xs.filterMap entry := by
  by_cases nothing : xs = []
  · rw [nothing, List.map_nil, join, splitOn_nil, List.filterMap_cons_none blank]
    rfl
  · have proper : ∀ f ∈ xs.map write, sep ∉ f := by
      rw [List.forall_mem_map]
      exact free
    rw [splitOn_join proper (mt List.map_eq_nil_iff.mp nothing), List.filterMap_map]
    exact List.filterMap_congr back

section Ends

variable {p : Char → Bool} {sep : Char} {a b cs : List Char}

/-- A text is cut at its first separator. -/
lemma cut?_append (free : sep ∉ a) (b : List Char) : cut? sep (a ++ sep :: b) = some (a, b) := by
  have before : ∀ c ∈ a, decide (c ≠ sep) = true := by
    intro c hc
    rw [decide_eq_true_eq]
    rintro rfl
    exact free hc
  have stops : decide (sep ≠ sep) = false := decide_eq_false fun differ => differ rfl
  rw [cut?, List.dropWhile_append_of_pos before,
    List.dropWhile_cons_of_neg (by rw [stops]; exact nofun),
    List.takeWhile_append_of_pos before, List.takeWhile_cons_of_neg (by rw [stops]; exact nofun),
    List.append_nil]

/-- A text without separator is not cut. -/
lemma cut?_of_not_mem (free : sep ∉ cs) : cut? sep cs = none := by
  have all : cs.dropWhile (fun c => decide (c ≠ sep)) = [] := by
    refine List.dropWhile_eq_nil_iff.mpr fun c hc => ?_
    rw [decide_eq_true_eq]
    rintro rfl
    exact free hc
  rw [cut?, all]

/-- A text without characters of a class at its ends. -/
def IsTrimmed (p : Char → Bool) (cs : List Char) : Prop :=
  cs.head?.any p = false ∧ cs.getLast?.any p = false

instance (p : Char → Bool) (cs : List Char) : Decidable (IsTrimmed p cs) :=
  inferInstanceAs (Decidable (_ ∧ _))

/-- Nothing is dropped from a text whose first character stays. -/
lemma dropWhile_of_head? (h : cs.head?.any p = false) : cs.dropWhile p = cs := by
  cases cs with
  | nil => rfl
  | cons c cs => exact List.dropWhile_cons_of_neg (Bool.eq_false_iff.mp h)

/-- A text that is trimmed stays as it is. -/
lemma trim_eq_self (h : IsTrimmed p cs) : trim p cs = cs := by
  have last : cs.reverse.head?.any p = false := by
    rw [List.head?_reverse]
    exact h.2
  rw [trim, dropWhile_of_head? h.1, dropWhile_of_head? last, List.reverse_reverse]

/-- Characters of the class in front are trimmed. -/
lemma trim_append_left (around : ∀ c ∈ a, p c = true) (cs : List Char) :
    trim p (a ++ cs) = trim p cs := by
  rw [trim, List.dropWhile_append_of_pos around, trim]

/-- Characters of the class behind are trimmed. -/
lemma trim_append_right (around : ∀ c ∈ b, p c = true) (cs : List Char) :
    trim p (cs ++ b) = trim p cs := by
  have behind : ∀ c ∈ b.reverse, p c = true := fun c hc => around c (List.mem_reverse.mp hc)
  rw [trim, trim, List.dropWhile_append]
  split
  case isTrue all =>
    rw [List.isEmpty_iff.mp all, List.dropWhile_eq_nil_iff.mpr around]
  case isFalse =>
    rw [List.reverse_append, List.dropWhile_append_of_pos behind]

/-- What stands around a trimmed text is cut off. -/
lemma trim_between (before : ∀ c ∈ a, p c = true) (h : IsTrimmed p cs)
    (behind : ∀ c ∈ b, p c = true) :
    trim p (a ++ cs ++ b) = cs := by
  rw [trim_append_right behind, trim_append_left before, trim_eq_self h]

/-- What is left after trimming was there before. -/
lemma mem_of_mem_trim {c : Char} (h : c ∈ trim p cs) : c ∈ cs := by
  have h := (List.dropWhile_suffix p).subset (List.mem_reverse.mp h)
  exact (List.dropWhile_suffix p).subset (List.mem_reverse.mp h)

/-- What is dropped lies in front of a character that stays. -/
private lemma dropWhile_append_cons {c : Char} (h : p c = false) (a b : List Char) :
    (a ++ c :: b).dropWhile p = a.dropWhile p ++ c :: b := by
  have stops : (c :: b).dropWhile p = c :: b := List.dropWhile_cons_of_neg (Bool.eq_false_iff.mp h)
  rw [List.dropWhile_append]
  split
  case isTrue all => rw [List.isEmpty_iff.mp all, stops, List.nil_append]
  case isFalse => rfl

/--
A text that is trimmed and then cut in two gives the two parts, each trimmed on its outer side.
-/
lemma cut?_trim_append (h : p sep = false) (free : sep ∉ a) (b : List Char) :
    cut? sep (trim p (a ++ sep :: b)) = some (a.dropWhile p, b.rdropWhile p) := by
  have trimmed : trim p (a ++ sep :: b) = a.dropWhile p ++ sep :: b.rdropWhile p := by
    rw [trim, dropWhile_append_cons h, List.reverse_append, List.reverse_cons, List.append_assoc,
      List.singleton_append, dropWhile_append_cons h, List.rdropWhile]
    simp only [List.reverse_append, List.reverse_cons, List.reverse_reverse, List.append_assoc,
      List.singleton_append]
  rw [trimmed, cut?_append fun there => free ((List.dropWhile_suffix p).subset there)]

/-- Trimming after characters were dropped in front is trimming. -/
lemma trim_dropWhile (p : Char → Bool) (cs : List Char) : trim p (cs.dropWhile p) = trim p cs := by
  rw [trim, List.dropWhile_idempotent, trim]

/-- Trimming after characters were dropped behind is trimming. -/
lemma trim_rdropWhile (p : Char → Bool) (cs : List Char) :
    trim p (cs.rdropWhile p) = trim p cs := by
  have behind : ∀ c ∈ cs.rtakeWhile p, p c = true := fun c hc => List.mem_rtakeWhile_imp hc
  rw [← trim_append_right behind (cs.rdropWhile p), List.rdropWhile_append_rtakeWhile]

end Ends

section Many

variable {sep : List Char} {cs : List Char}

/-- Splitting gives a field at least. -/
private lemma go_ne_nil (field : List Char) (skip : Nat) :
    splitOnMany.go sep field cs skip ≠ [] := by
  induction cs generalizing field skip with
  | nil => exact List.cons_ne_nil _ _
  | cons c cs ih =>
    cases skip with
    | succ skip => exact ih field skip
    | zero =>
      rw [splitOnMany.go]
      split
      · exact List.cons_ne_nil _ _
      · exact ih (c :: field) 0

/-- The fields with the separators between them are the text. -/
private lemma intercalate_go (field : List Char) (skip : Nat) :
    sep.intercalate (splitOnMany.go sep field cs skip) = field.reverse ++ cs.drop skip := by
  induction cs generalizing field skip with
  | nil => rw [splitOnMany.go, List.intercalate_singleton, List.drop_nil, List.append_nil]
  | cons c cs ih =>
    cases skip with
    | succ skip => exact ih field skip
    | zero =>
      rw [splitOnMany.go]
      split
      case isTrue found =>
        obtain ⟨some, found⟩ := found
        obtain ⟨rest, h⟩ := List.isPrefixOf_iff_prefix.mp found
        obtain ⟨d, ds, rfl⟩ := List.exists_cons_of_ne_nil some
        obtain ⟨rfl, rfl⟩ := List.cons.inj h
        rw [List.intercalate_cons_of_ne_nil (go_ne_nil [] _), ih]
        simp
      case isFalse =>
        rw [ih]
        simp

/-- Splitting loses nothing. -/
lemma intercalate_splitOnMany (sep cs : List Char) : sep.intercalate (splitOnMany sep cs) = cs :=
  intercalate_go [] 0

/-- A text without the separator is one field. -/
private lemma go_of_not_infix (absent : ¬ sep <:+: cs) (field : List Char) :
    splitOnMany.go sep field cs 0 = [field.reverse ++ cs] := by
  induction cs generalizing field with
  | nil => rw [splitOnMany.go, List.append_nil]
  | cons c cs ih =>
    rw [List.infix_cons_iff, not_or] at absent
    rw [splitOnMany.go, if_neg fun found => absent.1 (List.isPrefixOf_iff_prefix.mp found.2),
      ih absent.2,
      List.reverse_cons, List.append_assoc, List.singleton_append]

/-- A text with the separator has two fields at least. -/
private lemma go_of_infix (proper : sep ≠ []) (there : sep <:+: cs) (field : List Char) :
    2 ≤ (splitOnMany.go sep field cs 0).length := by
  induction cs generalizing field with
  | nil => exact absurd (List.infix_nil.mp there) proper
  | cons c cs ih =>
    rw [splitOnMany.go]
    split
    · exact Nat.succ_le_succ (List.length_pos_iff.mpr (go_ne_nil [] _))
    case isFalse here =>
      rcases List.infix_cons_iff.mp there with found | there
      · exact absurd ⟨proper, List.isPrefixOf_iff_prefix.mpr found⟩ here
      · exact ih there (c :: field)

/-- A text is one field exactly if the separator does not stand in it. -/
lemma splitOnMany_eq_self_iff (proper : sep ≠ []) : splitOnMany sep cs = [cs] ↔ ¬ sep <:+: cs := by
  constructor
  · intro whole there
    have two := go_of_infix proper there []
    rw [show splitOnMany.go sep [] cs 0 = [cs] from whole] at two
    exact absurd two (Nat.lt_irrefl 1)
  · intro absent
    exact go_of_not_infix absent []

end Many

/-- A lead is stripped from the texts that begin with it. -/
lemma stripLead?_eq_some_iff {lead cs rest : List Char} :
    stripLead? lead cs = some rest ↔ cs = lead ++ rest := by
  unfold stripLead?
  split
  case isTrue found =>
    obtain ⟨rest', rfl⟩ := List.isPrefixOf_iff_prefix.mp found
    rw [List.drop_left, Option.some_inj, List.append_cancel_left_eq]
  case isFalse other =>
    refine iff_of_false nofun ?_
    rintro rfl
    exact other (List.isPrefixOf_iff_prefix.mpr (List.prefix_append lead rest))

end Gatehouse.Text
