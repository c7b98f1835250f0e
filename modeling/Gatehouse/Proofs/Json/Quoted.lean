import Gatehouse.Json.Reader
import Gatehouse.Proofs.Octets

/-!
# Quoted texts

A text that is written in quotes is read back, whatever follows it (`Json.quotedRest?_escaped`).  So
two texts that look alike in quotes are the same (`Json.quote_append_inj`).
-/

namespace Gatehouse.Json

/-- A control character is read back from its digits. -/
lemma hexUnit?_control {n : Nat} (h : n < 32) (rest : List Char) :
    hexUnit? ('0' :: '0' :: Bytes.hexDigit (n / 16) :: Bytes.hexDigit (n % 16) :: rest) =
      some (n, rest) := by
  obtain ⟨-, high⟩ := Bytes.hexValue?_hexDigit (show n / 16 < 16 by omega)
  obtain ⟨-, low⟩ := Bytes.hexValue?_hexDigit (show n % 16 < 16 by omega)
  have zero : Bytes.hexValue? '0' = some 0 := by decide
  have digits : ['0', '0', Bytes.hexDigit (n / 16), Bytes.hexDigit (n % 16)].mapM Bytes.hexValue? =
      some [0, 0, n / 16, n % 16] := by
    simp only [List.mapM_cons, List.mapM_nil, zero, high, low]
    rfl
  have value : [0, 0, n / 16, n % 16].foldl (fun n v => n * 16 + v) 0 = n := by
    simp only [List.foldl_cons, List.foldl_nil]
    omega
  unfold hexUnit?
  simp only [List.take_succ_cons, List.take_zero, digits, value, List.length_cons, List.length_nil,
    if_true, List.drop_succ_cons, List.drop_zero]

/-- A character of a quoted text is read in one step. -/
lemma quotedRest?_escapeChar (fuel : Nat) (done : List Char) (c : Char) (rest : List Char) :
    quotedRest? (fuel + 1) done (escapeChar c ++ rest) = quotedRest? fuel (c :: done) rest := by
  by_cases quote : c = '"'
  · subst quote; rfl
  by_cases backslash : c = '\\'
  · subst backslash; rfl
  by_cases backspace : c = '\x08'
  · subst backspace; rfl
  by_cases feed : c = '\x0c'
  · subst feed; rfl
  by_cases line : c = '\n'
  · subst line; rfl
  by_cases carriage : c = '\r'
  · subst carriage; rfl
  by_cases tab : c = '\t'
  · subst tab; rfl
  by_cases control : c.toNat < 32
  · have code : escapeChar c =
        ['\\', 'u', '0', '0', Bytes.hexDigit (c.toNat / 16), Bytes.hexDigit (c.toNat % 16)] := by
      rw [escapeChar, if_neg quote, if_neg backslash, if_neg backspace, if_neg feed, if_neg line,
        if_neg carriage, if_neg tab, if_pos control]
    have unit : escapedUnit? ('0' :: '0' :: Bytes.hexDigit (c.toNat / 16) ::
        Bytes.hexDigit (c.toNat % 16) :: rest) = some (c, rest) := by
      have low : c.toNat < 0xD800 ∨ 0xDFFF < c.toNat := .inl (by omega)
      simp only [escapedUnit?, hexUnit?_control control, Option.bind_eq_bind, Option.bind_some,
        if_pos low, Char.ofNat_toNat]
      rfl
    rw [code]
    simp only [List.cons_append, List.nil_append]
    rw [quotedRest?, if_neg (by decide), if_neg (by decide), if_pos rfl, unit]
  · have plain : escapeChar c = [c] := by
      rw [escapeChar, if_neg quote, if_neg backslash, if_neg backspace, if_neg feed, if_neg line,
        if_neg carriage, if_neg tab, if_neg control]
    rw [plain, List.singleton_append]
    simp only [quotedRest?, if_neg quote, if_neg control, if_neg backslash]

/-- Escaped characters are read back up to the closing quote. -/
lemma quotedRest?_escaped (cs rest done : List Char) (more : Nat) :
    quotedRest? (cs.length + more + 1) done (cs.flatMap escapeChar ++ '"' :: rest) =
      some (String.ofList (done.reverse ++ cs), rest) := by
  induction cs generalizing done with
  | nil =>
    rw [List.append_nil]
    rfl
  | cons c cs ih =>
    rw [List.length_cons, Nat.add_right_comm cs.length 1 more, List.flatMap_cons, List.append_assoc,
      quotedRest?_escapeChar, ih, List.reverse_cons, List.append_assoc, List.singleton_append]

/-- A quoted text is told by what begins with it. -/
lemma quote_append_inj {s t : String} {cs ds : List Char} (h : quote s ++ cs = quote t ++ ds) :
    s = t := by
  have read (s : String) (cs : List Char) (more : Nat) :
      quotedRest? (s.toList.length + more + 1) [] ((quote s ++ cs).tail) = some (s, cs) := by
    have within : (quote s ++ cs).tail = s.toList.flatMap escapeChar ++ '"' :: cs := by
      rw [quote, List.cons_append, List.cons_append, List.tail_cons, List.append_assoc,
        List.singleton_append]
    rw [within, quotedRest?_escaped, List.reverse_nil, List.nil_append, String.ofList_toList]
  have first := read s cs t.toList.length
  have second := read t ds s.toList.length
  rw [h, Nat.add_comm s.toList.length, second] at first
  cases first
  rfl

end Gatehouse.Json
