import Gatehouse.Bytes
import Mathlib.Tactic.Lemma

/-!
# Printable octets and hexadecimal digits

The two textual forms of octets that headers carry.  Octets that are all printable ASCII are the
UTF-8 form of exactly one text (`visibleText?_eq_some_iff`), and lowercase hexadecimal is read back
as it was written and written back as it was read (`ofHexChars?_toHexChars`,
`toHexChars_of_ofHexChars?`).
-/

namespace Gatehouse.Bytes

/-- The visible octets are those of printable ASCII and the tab. -/
lemma isVisible_iff (b : UInt8) : isVisible b = true ↔ (0x20 ≤ b ∧ b ≤ 0x7e) ∨ b = 0x09 := by
  simp only [isVisible, Bool.or_eq_true, Bool.and_eq_true, decide_eq_true_eq, beq_iff_eq,
    UInt8.le_iff_toNat_le, UInt8.lt_iff_toNat_lt]
  have h1 : (0x7F : UInt8).toNat = 127 := rfl
  have h2 : (0x7e : UInt8).toNat = 126 := rfl
  have h3 : b.toNat < 127 ↔ b.toNat ≤ 126 := by omega
  rw [h1, h2, h3]

/-- A visible octet is ASCII. -/
lemma toNat_lt_of_isVisible {b : UInt8} (h : isVisible b = true) : b.toNat < 128 := by
  have h := (isVisible_iff b).mp h
  rw [UInt8.le_iff_toNat_le, UInt8.le_iff_toNat_le, ← UInt8.toNat_inj] at h
  have h1 : (0x7e : UInt8).toNat = 126 := rfl
  have h2 : (0x09 : UInt8).toNat = 9 := rfl
  omega

/-- Texts with the same UTF-8 form are the same. -/
lemma ofText_inj {s t : String} (h : ofText s = ofText t) : s = t := by
  have same : s.toList.utf8Encode = t.toList.utf8Encode := congrArg List.toByteArray h
  have decoded := congrArg ByteArray.utf8Decode? same
  rw [List.utf8Decode?_utf8Encode, List.utf8Decode?_utf8Encode, Option.some_inj] at decoded
  exact String.toList_inj.mp (Array.toList_inj.mpr decoded)

/-- Numbers below the surrogates are those of characters. -/
lemma toNat_ofNat_of_lt {n : Nat} (h : n < 55296) : (Char.ofNat n).toNat = n := by
  have hv : n.isValidChar := .inl h
  rw [Char.ofNat, dif_pos hv]
  rfl

/-- An ASCII octet is the whole UTF-8 form of its character. -/
lemma encode_ofNat {b : UInt8} (h : b.toNat < 128) :
    String.utf8EncodeChar (Char.ofNat b.toNat) = [b] := by
  have hc : (Char.ofNat b.toNat).val.toNat = b.toNat := toNat_ofNat_of_lt (by omega)
  have hle : b.toNat ≤ 127 := by omega
  simp [String.utf8EncodeChar, hc, hle]

/-- Octets that are all ASCII are the UTF-8 form of their characters. -/
lemma ofChars_map_ofNat {bs : Bytes} (h : ∀ b ∈ bs, b.toNat < 128) :
    ofChars (bs.map fun b => Char.ofNat b.toNat) = bs := by
  induction bs with
  | nil => rfl
  | cons b bs ih =>
    have hb := encode_ofNat (h b (by simp))
    have ih := ih fun c hc => h c (by simp [hc])
    simp only [ofChars, List.map_cons, List.flatMap_cons, hb] at ih ⊢
    rw [ih]; rfl

/-- A character whose UTF-8 form is all ASCII is written as one octet, its code point. -/
lemma encode_eq_of_ascii {c : Char} (h : ∀ b ∈ String.utf8EncodeChar c, b.toNat < 128) :
    c.toNat < 128 ∧ String.utf8EncodeChar c = [UInt8.ofNat c.toNat] := by
  have hv : c.val.toNat = c.toNat := rfl
  by_cases hc : c.toNat ≤ 127
  · exact ⟨by omega, by simp [String.utf8EncodeChar, hv, hc]⟩
  · exfalso
    -- the first octet of every longer form is at least 192
    have first : ∃ n, ∃ rest, String.utf8EncodeChar c = UInt8.ofNat n :: rest ∧ 192 ≤ n ∧
        n < 256 := by
      simp only [String.utf8EncodeChar, hv, if_neg hc]
      split
      · exact ⟨_, _, rfl, by omega, by omega⟩
      · split
        · exact ⟨_, _, rfl, by omega, by omega⟩
        · exact ⟨_, _, rfl, by omega, by omega⟩
    obtain ⟨n, rest, e, h1, h2⟩ := first
    have hn := h (UInt8.ofNat n) (by rw [e]; exact List.mem_cons_self)
    rw [UInt8.toNat_ofNat'] at hn
    omega

/-- Beyond ASCII every octet of a character has its highest bit set. -/
lemma le_of_mem_encode {c : Char} (h : 128 ≤ c.toNat) :
    ∀ b ∈ String.utf8EncodeChar c, 128 ≤ b.toNat := by
  have hv : c.val.toNat = c.toNat := rfl
  have high {n : Nat} (low : 128 ≤ n) (small : n < 256) : 128 ≤ (UInt8.ofNat n).toNat := by
    rw [UInt8.toNat_ofNat']
    omega
  intro b hb
  simp only [String.utf8EncodeChar, hv, if_neg (Nat.not_le.mpr h)] at hb
  split at hb
  · simp only [List.mem_cons, List.not_mem_nil, or_false] at hb
    rcases hb with rfl | rfl
    · exact high (by omega) (by omega)
    · exact high (by omega) (by omega)
  · split at hb
    · simp only [List.mem_cons, List.not_mem_nil, or_false] at hb
      rcases hb with rfl | rfl | rfl
      · exact high (by omega) (by omega)
      · exact high (by omega) (by omega)
      · exact high (by omega) (by omega)
    · simp only [List.mem_cons, List.not_mem_nil, or_false] at hb
      rcases hb with rfl | rfl | rfl | rfl
      · exact high (by omega) (by omega)
      · exact high (by omega) (by omega)
      · exact high (by omega) (by omega)
      · exact high (by omega) (by omega)

/-- Reading the UTF-8 form of ASCII characters octet by octet gives them back. -/
lemma map_ofNat_ofChars {cs : List Char} (h : ∀ b ∈ ofChars cs, b.toNat < 128) :
    (ofChars cs).map (fun b => Char.ofNat b.toNat) = cs := by
  induction cs with
  | nil => rfl
  | cons c cs ih =>
    have split : ofChars (c :: cs) = String.utf8EncodeChar c ++ ofChars cs := List.flatMap_cons
    rw [split] at h ⊢
    obtain ⟨hc, e⟩ := encode_eq_of_ascii fun b hb => h b (List.mem_append_left _ hb)
    have ih := ih fun b hb => h b (List.mem_append_right _ hb)
    have hm : (UInt8.ofNat c.toNat).toNat = c.toNat := by rw [UInt8.toNat_ofNat']; omega
    rw [e, List.map_append, ih, List.map_singleton, hm, Char.ofNat_toNat]
    rfl

/-- Octets have a printable text exactly if they are printable, and they are its UTF-8 form. -/
lemma visibleText?_eq_some_iff {bs : Bytes} {s : String} :
    visibleText? bs = some s ↔ bs = ofText s ∧ ∀ b ∈ bs, isVisible b = true := by
  rw [visibleText?]
  split
  case isTrue h =>
    have hv : ∀ b ∈ bs, isVisible b = true := List.all_eq_true.mp h
    constructor
    · intro e
      cases e
      refine ⟨?_, hv⟩
      rw [ofText, String.toList_ofList]
      exact (ofChars_map_ofNat fun b hb => toNat_lt_of_isVisible (hv b hb)).symm
    · rintro ⟨rfl, -⟩
      rw [ofText, map_ofNat_ofChars fun b hb => toNat_lt_of_isVisible (hv b hb),
        String.ofList_toList]
  case isFalse h =>
    constructor
    · intro e; cases e
    · rintro ⟨-, hv⟩
      exact absurd (List.all_eq_true.mpr hv) h

/-- A character that a header can carry as text. -/
def IsVisibleChar (c : Char) : Prop := (0x20 ≤ c.toNat ∧ c.toNat ≤ 0x7e) ∨ c = '\t'

instance (c : Char) : Decidable (IsVisibleChar c) := inferInstanceAs (Decidable (_ ∨ _))

/-- Characters that are found to be visible one by one are all visible. -/
lemma visible_of_all {cs : List Char} (h : (cs.all fun c => IsVisibleChar c) = true) :
    ∀ c ∈ cs, IsVisibleChar c := fun c hc => of_decide_eq_true (List.all_eq_true.mp h c hc)

/-- Visible characters have visible octets. -/
lemma isVisible_ofChars {cs : List Char} (h : ∀ c ∈ cs, IsVisibleChar c) :
    ∀ b ∈ ofChars cs, isVisible b = true := by
  intro b hb
  obtain ⟨c, hc, hb⟩ := List.mem_flatMap.mp hb
  have small : c.toNat ≤ 126 := by
    rcases h c hc with ⟨-, h⟩ | rfl
    · exact h
    · decide
  have e : String.utf8EncodeChar c = [UInt8.ofNat c.toNat] := by
    have hv : c.val.toNat = c.toNat := rfl
    have hle : c.toNat ≤ 127 := by omega
    simp [String.utf8EncodeChar, hv, hle]
  rw [e, List.mem_singleton] at hb
  have hm : b.toNat = c.toNat := by rw [hb, UInt8.toNat_ofNat']; omega
  rw [isVisible_iff, UInt8.le_iff_toNat_le, UInt8.le_iff_toNat_le, ← UInt8.toNat_inj, hm]
  rcases h c hc with ⟨h1, h2⟩ | rfl
  · exact .inl ⟨h1, h2⟩
  · exact .inr rfl

/-- Characters whose octets are all visible are visible. -/
lemma visible_of_isVisible {cs : List Char} (h : ∀ b ∈ ofChars cs, isVisible b = true) :
    ∀ c ∈ cs, IsVisibleChar c := by
  intro c hc
  have inside : ∀ b ∈ String.utf8EncodeChar c, isVisible b = true := fun b hb =>
    h b (List.mem_flatMap.mpr ⟨c, hc, hb⟩)
  obtain ⟨small, e⟩ := encode_eq_of_ascii fun b hb => toNat_lt_of_isVisible (inside b hb)
  have octet := inside (UInt8.ofNat c.toNat) (by rw [e]; exact List.mem_singleton_self _)
  have value : (UInt8.ofNat c.toNat).toNat = c.toNat := by rw [UInt8.toNat_ofNat']; omega
  rw [isVisible_iff, UInt8.le_iff_toNat_le, UInt8.le_iff_toNat_le, ← UInt8.toNat_inj,
    value] at octet
  rcases octet with ⟨low, high⟩ | tab
  · exact .inl ⟨low, high⟩
  · exact .inr (Char.toNat_inj.mp tab)

/-- A lowercase hexadecimal digit. -/
def IsLowerHex (c : Char) : Prop := ('0' ≤ c ∧ c ≤ '9') ∨ ('a' ≤ c ∧ c ≤ 'f')

/-- The digit of a number below sixteen is lowercase and has that number. -/
lemma hexValue?_hexDigit {n : Nat} (h : n < 16) :
    IsLowerHex (hexDigit n) ∧ hexValue? (hexDigit n) = some n := by
  have all : ∀ m : Fin 16, (('0' ≤ hexDigit m ∧ hexDigit m ≤ '9') ∨
    ('a' ≤ hexDigit m ∧ hexDigit m ≤ 'f'))
      ∧ hexValue? (hexDigit m) = some m.val := by decide
  exact all ⟨n, h⟩

/-- The number of a lowercase digit is below sixteen and has that digit. -/
lemma hexDigit_of_hexValue? {c : Char} {n : Nat} (hc : IsLowerHex c) (h : hexValue? c = some n) :
    n < 16 ∧ hexDigit n = c := by
  have code (d : Char) : d.val.toNat = d.toNat := rfl
  simp only [IsLowerHex, Char.le_def, UInt32.le_iff_toNat_le, code] at hc
  simp only [hexValue?, Char.le_def, UInt32.le_iff_toNat_le, code] at h
  have e0 : '0'.toNat = 48 := rfl
  have e9 : '9'.toNat = 57 := rfl
  have ea : 'a'.toNat = 97 := rfl
  have ef : 'f'.toNat = 102 := rfl
  rw [e0, e9, ea, ef] at hc h
  split at h
  case isTrue hd =>
    cases h
    refine ⟨by omega, ?_⟩
    rw [hexDigit, if_pos (by omega), show 48 + (c.toNat - 48) = c.toNat by omega, Char.ofNat_toNat]
  case isFalse hd =>
    rw [if_pos (by omega)] at h
    cases h
    refine ⟨by omega, ?_⟩
    rw [hexDigit, if_neg (by omega), show 87 + (c.toNat - 87) = c.toNat by omega, Char.ofNat_toNat]

/-- Octets are written in hexadecimal digits. -/
lemma isLowerHex_of_mem_toHexChars {bs : Bytes} {c : Char} (h : c ∈ toHexChars bs) :
    IsLowerHex c := by
  obtain ⟨b, -, hc⟩ := List.mem_flatMap.mp h
  have hb := b.toNat_lt
  simp only [List.mem_cons, List.not_mem_nil, or_false] at hc
  rcases hc with rfl | rfl
  · exact (hexValue?_hexDigit (by omega)).1
  · exact (hexValue?_hexDigit (by omega)).1

/-- A hexadecimal digit is visible. -/
lemma IsLowerHex.visible {c : Char} (h : IsLowerHex c) : IsVisibleChar c := by
  have code (d : Char) : d.val.toNat = d.toNat := rfl
  simp only [IsLowerHex, Char.le_def, UInt32.le_iff_toNat_le, code] at h
  have e0 : '0'.toNat = 48 := rfl
  have e9 : '9'.toNat = 57 := rfl
  have ea : 'a'.toNat = 97 := rfl
  have ef : 'f'.toNat = 102 := rfl
  refine .inl ?_
  omega

/-- Each octet is written in two digits. -/
lemma length_toHexChars (bs : Bytes) : (toHexChars bs).length = 2 * bs.length := by
  induction bs with
  | nil => rfl
  | cons b bs ih =>
    simp only [toHexChars, List.flatMap_cons, List.length_append, List.length_cons,
      List.length_nil] at ih ⊢
    omega

/-- Octets are read back from their digits. -/
lemma ofHexChars?_toHexChars (bs : Bytes) : ofHexChars? (toHexChars bs) = some bs := by
  induction bs with
  | nil => rfl
  | cons b bs ih =>
    have hb := b.toNat_lt
    obtain ⟨-, hi⟩ := hexValue?_hexDigit (show b.toNat / 16 < 16 by omega)
    obtain ⟨-, lo⟩ := hexValue?_hexDigit (show b.toNat % 16 < 16 by omega)
    have e : b.toNat / 16 * 16 + b.toNat % 16 = b.toNat := by omega
    change (hexValue? (hexDigit (b.toNat / 16))).bind
      (fun hi => (hexValue? (hexDigit (b.toNat % 16))).bind
      fun lo => (ofHexChars? (toHexChars bs)).bind fun bs =>
      some (UInt8.ofNat (hi * 16 + lo) :: bs)) = _
    rw [hi, lo, ih]
    simp only [Option.bind_some, e, UInt8.ofNat_toNat]

/-- Digits in small letters are written back from the octets that are read. -/
lemma toHexChars_of_ofHexChars? : ∀ {cs : List Char} {bs : Bytes},
    (∀ c ∈ cs, IsLowerHex c) → ofHexChars? cs = some bs → toHexChars bs = cs
  | [], bs, _, h => by cases h; rfl
  | [_], bs, _, h => by cases h
  | c :: d :: cs, bs, hl, h => by
    obtain ⟨hi, ehi, h⟩ := Option.bind_eq_some_iff.mp h
    obtain ⟨lo, elo, h⟩ := Option.bind_eq_some_iff.mp h
    obtain ⟨rest, erest, h⟩ := Option.bind_eq_some_iff.mp h
    cases h
    obtain ⟨bhi, dhi⟩ := hexDigit_of_hexValue? (hl c (by simp)) ehi
    obtain ⟨blo, dlo⟩ := hexDigit_of_hexValue? (hl d (by simp)) elo
    have ih := toHexChars_of_ofHexChars? (fun e he => hl e (by simp [he])) erest
    have en : (UInt8.ofNat (hi * 16 + lo)).toNat = hi * 16 + lo := by
      rw [UInt8.toNat_ofNat']; omega
    simp only [toHexChars, List.flatMap_cons, en] at ih ⊢
    rw [ih, show (hi * 16 + lo) / 16 = hi by omega, show (hi * 16 + lo) % 16 = lo by omega, dhi,
      dlo]
    rfl

end Gatehouse.Bytes
