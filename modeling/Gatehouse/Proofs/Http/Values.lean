import Gatehouse.Http.Headers
import Gatehouse.Proofs.Named
import Gatehouse.Proofs.Octets
import Gatehouse.Uuid

/-!
# Texts as header values

A text can be a header value exactly if no control character but the tab stands in it
(`HeaderValue.Writes`). A visible text is read back from the value
(`HeaderValue.ofText?_of_visible`), and the text of a value writes that value again
(`HeaderValue.ofText?_of_text?`).  Request ids are such texts.
-/

namespace Gatehouse

/-- A character that a header value can write: the tab, or no control character of ASCII. -/
def HeaderValue.IsWritableChar (c : Char) : Prop := c = '\t' ∨ (32 ≤ c.toNat ∧ c.toNat ≠ 127)

instance (c : Char) : Decidable (HeaderValue.IsWritableChar c) :=
  inferInstanceAs (Decidable (_ ∨ _))

/-- A character is writable if all its octets may stand in a header value. -/
lemma HeaderValue.isHeaderOctet_encode_iff (c : Char) :
    (∀ b ∈ String.utf8EncodeChar c, isHeaderOctet b = true) ↔ IsWritableChar c := by
  have hv : c.val.toNat = c.toNat := rfl
  have octet (b : UInt8) : isHeaderOctet b = true ↔ (32 ≤ b.toNat ∧ b.toNat ≠ 127) ∨
      b.toNat = 9 := by
    simp only [isHeaderOctet, Bool.or_eq_true, Bool.and_eq_true, decide_eq_true_eq, bne_iff_ne,
      beq_iff_eq, UInt8.le_iff_toNat_le, ne_eq, ← UInt8.toNat_inj]
    exact Iff.rfl
  by_cases ascii : c.toNat ≤ 127
  · have single : String.utf8EncodeChar c = [UInt8.ofNat c.toNat] := by
      simp [String.utf8EncodeChar, hv, ascii]
    have value : (UInt8.ofNat c.toNat).toNat = c.toNat := by rw [UInt8.toNat_ofNat']; omega
    have tab : c.toNat = 9 ↔ c = '\t' := ⟨fun e => Char.toNat_inj.mp e, fun e => e ▸ rfl⟩
    rw [single, List.forall_mem_singleton, octet, value, tab, or_comm]
    exact Iff.rfl
  · have beyond : 128 ≤ c.toNat := Nat.lt_of_not_le ascii
    refine iff_of_true (fun b hb => ?_) (.inr (by omega))
    have high := Bytes.le_of_mem_encode beyond b hb
    exact (octet b).mpr (.inl (by omega))

/-- A text that a header value can write. -/
def HeaderValue.Writes (t : String) : Prop := ∀ c ∈ t.toList, IsWritableChar c

/-- A text is writable if all its octets may stand in a header value. -/
lemma HeaderValue.all_isHeaderOctet_iff (t : String) :
    (Bytes.ofText t).all isHeaderOctet = true ↔ Writes t := by
  rw [List.all_eq_true]
  constructor
  · intro all c hc
    exact (isHeaderOctet_encode_iff c).mp fun b hb => all b (List.mem_flatMap.mpr ⟨c, hc, hb⟩)
  · intro all b hb
    obtain ⟨c, hc, hb⟩ := List.mem_flatMap.mp hb
    exact (isHeaderOctet_encode_iff c).mpr (all c hc) b hb

/-- A writable text is a header value with its octets. -/
lemma HeaderValue.ofText?_of_writes {t : String} (h : Writes t) :
    ∃ v, ofText? t = some v ∧ v.octets = Bytes.ofText t := by
  have ok := (all_isHeaderOctet_iff t).mpr h
  refine ⟨⟨Bytes.ofText t, ok⟩, ?_, rfl⟩
  rw [ofText?, of?, dif_pos ok]

/-- A text that is not writable is no header value. -/
lemma HeaderValue.ofText?_of_not_writes {t : String} (h : ¬ Writes t) : ofText? t = none := by
  rw [ofText?, of?, dif_neg (mt (all_isHeaderOctet_iff t).mp h)]

/-- A visible octet may stand in a header value. -/
lemma isHeaderOctet_of_isVisible {b : UInt8} (h : Bytes.isVisible b = true) :
    isHeaderOctet b = true := by
  simp only [Bytes.isVisible, Bool.or_eq_true, Bool.and_eq_true, decide_eq_true_eq, beq_iff_eq] at h
  simp only [isHeaderOctet, Bool.or_eq_true, Bool.and_eq_true, decide_eq_true_eq, beq_iff_eq,
    bne_iff_ne]
  rcases h with ⟨low, high⟩ | rfl
  · refine .inl ⟨low, ?_⟩
    rintro rfl
    exact absurd high (by decide)
  · exact .inr rfl

/-- A visible text can be a header value, which is read as that text. -/
lemma HeaderValue.ofText?_of_visible {s : String} (h : ∀ c ∈ s.toList, Bytes.IsVisibleChar c) :
    ∃ v, ofText? s = some v ∧ v.text? = some s := by
  have visible : ∀ b ∈ Bytes.ofText s, Bytes.isVisible b = true := Bytes.isVisible_ofChars h
  have ok : (Bytes.ofText s).all isHeaderOctet = true :=
    List.all_eq_true.mpr fun b hb => isHeaderOctet_of_isVisible (visible b hb)
  refine ⟨⟨Bytes.ofText s, ok⟩, ?_, ?_⟩
  · rw [ofText?, of?, dif_pos ok]
  · exact Bytes.visibleText?_eq_some_iff.mpr ⟨rfl, visible⟩

/-- The text of a value writes that value. -/
lemma HeaderValue.ofText?_of_text? {v : HeaderValue} {t : String} (h : v.text? = some t) :
    ofText? t = some v := by
  obtain ⟨octets, -⟩ := Bytes.visibleText?_eq_some_iff.mp h
  rw [ofText?, ← octets, of?, dif_pos v.ok]

/-- The only value of a name may be made the only one. -/
lemma Headers.insert_of_values {h : Headers} {name : HeaderName} {v : HeaderValue}
    (e : h.values name = [v]) : h.insert name v = h := by
  have found : h.entries.find? name = some [v] := by
    rw [values] at e
    cases there : h.entries.find? name with
    | none =>
      rw [there] at e
      cases e
    | some vs =>
      rw [there, Option.getD_some] at e
      rw [e]
  exact Headers.ext (Named.put_of_find? found)

/-- Hyphens stand between the digits of an id, and nothing else. -/
lemma Uuid.mem_hyphenated {ds : List Char} {c : Char} (h : c ∈ hyphenated ds) :
    c = '-' ∨ c ∈ ds := by
  simp only [hyphenated, List.mem_append, List.mem_cons, or_assoc] at h
  rcases h with h | rfl | h | rfl | h | rfl | h | rfl | h
  · exact .inr (List.mem_of_mem_take h)
  · exact .inl rfl
  · exact .inr (List.mem_of_mem_drop (List.mem_of_mem_take h))
  · exact .inl rfl
  · exact .inr (List.mem_of_mem_drop (List.mem_of_mem_take h))
  · exact .inl rfl
  · exact .inr (List.mem_of_mem_drop (List.mem_of_mem_take h))
  · exact .inl rfl
  · exact .inr (List.mem_of_mem_drop h)

/-- The text of an id is visible. -/
lemma Uuid.visible_toText (u : Uuid) : ∀ c ∈ u.toText.toList, Bytes.IsVisibleChar c := by
  intro c hc
  rw [toText, String.toList_ofList] at hc
  rcases mem_hyphenated hc with rfl | hc
  · exact .inl (by decide)
  · exact (Bytes.isLowerHex_of_mem_toHexChars hc).visible

end Gatehouse
