import Mathlib.Data.List.Infix
import Mathlib.Tactic.Lemma
import Gatehouse.Text.Ascii
import Gatehouse.Text.CaseMap

/-!
# Phrases in texts of any case

A phrase of small letters stands in the full lowercase form of a text exactly if it stands in the
text with its ASCII letters folded (`hasInfix_iff_lower`).  Two characters beyond ASCII have a
lowercase form with an ASCII letter, the Kelvin sign a k and the capital I with a dot an i that is
followed by the dot.  So a phrase has no k and does not end with an i.
-/

namespace Gatehouse.Text

/-- The search finds a part exactly if it stands in the text. -/
lemma hasInfix_iff (part cs : List Char) : hasInfix part cs = true ↔ part <:+: cs := by
  induction cs with
  | nil => rw [hasInfix, List.isEmpty_iff, List.infix_nil]
  | cons c cs ih =>
    rw [hasInfix, Bool.or_eq_true, List.isPrefixOf_iff_prefix, ih, List.infix_cons_iff]

/-- A blank or a small letter, but not the letter k. -/
def IsPhraseChar (c : Char) : Prop := c.toNat = 32 ∨ (97 ≤ c.toNat ∧ c.toNat ≤ 122 ∧ c.toNat ≠ 107)

instance (c : Char) : Decidable (IsPhraseChar c) := inferInstanceAs (Decidable (_ ∨ _))

/-- A text of phrase characters, which does not end with the letter i. -/
structure IsPhrase (phrase : List Char) : Prop where
  nonempty : phrase ≠ []
  chars : ∀ c ∈ phrase, IsPhraseChar c
  last : phrase.getLast? ≠ some 'i'

/-- A phrase character is ASCII. -/
lemma not_isPhraseChar_of_le {c : Char} (h : 128 ≤ c.toNat) : ¬ IsPhraseChar c := by
  rintro (blank | ⟨-, letter, -⟩)
  · omega
  · omega

/-- The full lowercase form of a text beside the form in which only ASCII letters are folded. -/
inductive Folds : List Char → List Char → Prop where
  | nil : Folds [] []
  | same (c) {xs ys} : Folds xs ys → Folds (c :: xs) (c :: ys)
  | other {d c xs ys} : ¬ IsPhraseChar d → ¬ IsPhraseChar c → Folds xs ys →
    Folds (d :: xs) (c :: ys)
  | dotted {xs ys} : Folds xs ys → Folds ('i' :: '\u0307' :: xs) ('İ' :: ys)

/-- A phrase does not begin with another character. -/
lemma not_prefix_of_other {phrase : List Char} (h : IsPhrase phrase) {c : Char}
    (other : ¬ IsPhraseChar c) (cs : List Char) : ¬ phrase <+: c :: cs := by
  intro lead
  rcases List.prefix_cons_iff.mp lead with rfl | ⟨rest, rfl, -⟩
  · exact h.nonempty rfl
  · exact other (h.chars c List.mem_cons_self)

/-- A phrase without its first character is one. -/
lemma IsPhrase.tail {c d : Char} {rest : List Char} (h : IsPhrase (c :: d :: rest)) :
    IsPhrase (d :: rest) := by
  constructor
  case nonempty => exact List.cons_ne_nil d rest
  case chars => exact fun e he => h.chars e (List.mem_cons_of_mem c he)
  case last =>
    have last := h.last
    rw [List.getLast?_cons_cons] at last
    exact last

namespace Folds

variable {xs ys phrase : List Char}

/-- A phrase stands at the beginning of one form if it does of the other. -/
lemma prefix_iff (f : Folds xs ys) (h : IsPhrase phrase) : phrase <+: xs ↔ phrase <+: ys := by
  induction f generalizing phrase with
  | nil => exact Iff.rfl
  | same c _ ih =>
    match phrase, h with
    | [], h => exact absurd rfl h.nonempty
    | [d], _ => simp only [List.cons_prefix_cons, List.nil_prefix]
    | d :: e :: rest, h => rw [List.cons_prefix_cons, List.cons_prefix_cons, ih h.tail]
  | other hd hc _ _ => exact iff_of_false (not_prefix_of_other h hd _) (not_prefix_of_other h hc _)
  | dotted _ _ =>
    refine iff_of_false ?_ (not_prefix_of_other h (by decide) _)
    intro lead
    match phrase, h with
    | [], h => exact h.nonempty rfl
    | [d], h =>
      obtain ⟨rfl, -⟩ := List.cons_prefix_cons.mp lead
      exact h.last rfl
    | d :: e :: rest, h =>
      obtain ⟨-, dot⟩ := List.cons_prefix_cons.mp lead
      exact not_prefix_of_other h.tail (by decide) _ dot

/-- A phrase stands in one form if it does in the other. -/
lemma infix_iff (f : Folds xs ys) (h : IsPhrase phrase) : phrase <:+: xs ↔ phrase <:+: ys := by
  induction f with
  | nil => exact Iff.rfl
  | same c f ih => rw [List.infix_cons_iff, List.infix_cons_iff, (Folds.same c f).prefix_iff h, ih]
  | other hd hc f ih =>
    rw [List.infix_cons_iff, List.infix_cons_iff, (Folds.other hd hc f).prefix_iff h, ih]
  | dotted f ih =>
    have dot := not_prefix_of_other h (c := '\u0307') (by decide)
    rw [List.infix_cons_iff, List.infix_cons_iff (a := '\u0307'), List.infix_cons_iff,
      (Folds.dotted f).prefix_iff h, ih, or_iff_right (dot _)]

end Folds

/-- Characters beyond ASCII have no small form in ASCII. -/
lemma lowerAscii_of_le {c : Char} (h : 128 ≤ c.toNat) : lowerAscii c = c := by
  rw [lowerAscii, if_neg]
  rintro ⟨-, high⟩
  have high : c.toNat ≤ 90 := high
  omega

/-- In ASCII both forms of a character are the same. -/
lemma lowerOf_ascii {c : Char} (h : c.toNat < 128) : lowerOf c = [lowerAscii c] := by
  have all : ∀ n : Fin 128, lowerOf (Char.ofNat n) = [lowerAscii (Char.ofNat n)] := by
    decide +kernel
  have this := all ⟨c.toNat, h⟩
  rw [Char.ofNat_toNat] at this
  exact this

/-- Beyond ASCII only the Kelvin sign has a lowercase form that is one character of ASCII. -/
lemma lowerRows_beyond :
    ∀ r ∈ lowerRows, r.2.1 < 128 ∨ 128 ≤ (r.1 : Int) + r.2.2.2 ∨
    (r.1 = r.2.1 ∧ (r.1 : Int) + r.2.2.2 = 107) := by
  decide +kernel

/-- Beyond ASCII, and at the letter k, there are no phrase characters. -/
lemma not_isPhraseChar_ofNat {n : Nat} (h : 128 ≤ n ∨ n = 107) : ¬ IsPhraseChar (Char.ofNat n) := by
  rcases h with h | rfl
  · by_cases valid : n.isValidChar
    · rw [Char.ofNat, dif_pos valid]
      exact not_isPhraseChar_of_le h
    · rw [Char.ofNat, dif_neg valid]
      decide
  · decide

/-- The lowercase form of a character beyond ASCII is one character, and none of a phrase. -/
lemma lowerOf_beyond {c : Char} (h : 128 ≤ c.toNat) (undotted : c ≠ 'İ') :
    ∃ d, lowerOf c = [d] ∧ ¬ IsPhraseChar d := by
  have single : lowerMany.lookup c.toNat = none := by
    have differs : (c.toNat == 304) = false := by
      apply beq_false_of_ne
      intro same
      exact undotted (Char.toNat_inj.mp same)
    simp only [lowerMany, List.lookup_cons, differs, List.lookup_nil]
  unfold lowerOf mapCode
  simp only [single]
  cases e : lowerRows.find? fun r =>
    r.1 ≤ c.toNat && c.toNat ≤ r.2.1 && (c.toNat - r.1) % r.2.2.1 == 0 with
  | none => exact ⟨c, rfl, not_isPhraseChar_of_le h⟩
  | some r =>
    refine ⟨_, rfl, not_isPhraseChar_ofNat ?_⟩
    have within := List.find?_some e
    simp only [Bool.and_eq_true, decide_eq_true_eq] at within
    obtain ⟨⟨low, high⟩, -⟩ := within
    rcases lowerRows_beyond r (List.mem_of_find?_eq_some e) with ascii | beyond | ⟨alone, kelvin⟩
    · omega
    · omega
    · omega

/-- Both forms of a text fold alike, whatever stands before. -/
lemma folds_lowerAfter (before cs : List Char) :
    Folds (lowerAfter before cs) (cs.map lowerAscii) := by
  induction cs generalizing before with
  | nil => exact .nil
  | cons c cs ih =>
    have ih := ih (c :: before)
    rw [lowerAfter, List.map_cons]
    by_cases sigma : c = 'Σ'
    · subst sigma
      have kept : lowerAscii 'Σ' = 'Σ' := by decide
      rw [if_pos rfl, kept]
      split
      · exact .other (by decide) (by decide) ih
      · exact .other (by decide) (by decide) ih
    · rw [if_neg sigma]
      by_cases ascii : c.toNat < 128
      · rw [lowerOf_ascii ascii]
        exact .same _ ih
      · have beyond : 128 ≤ c.toNat := Nat.le_of_not_lt ascii
        rw [lowerAscii_of_le beyond]
        by_cases dotted : c = 'İ'
        · subst dotted
          have form : lowerOf 'İ' = ['i', '\u0307'] := by decide +kernel
          rw [form]
          exact .dotted ih
        · obtain ⟨d, form, other⟩ := lowerOf_beyond beyond dotted
          rw [form]
          exact .other other (not_isPhraseChar_of_le beyond) ih

/-- A phrase is found after folding ASCII if it stands in the lowercase text. -/
lemma hasInfix_iff_lower {phrase : List Char} (h : IsPhrase phrase) (s : String) :
    hasInfix phrase (s.toList.map lowerAscii) = true ↔ phrase <:+: (lower s).toList := by
  rw [hasInfix_iff, lower, String.toList_ofList]
  exact ((folds_lowerAfter [] s.toList).infix_iff h).symm

end Gatehouse.Text
