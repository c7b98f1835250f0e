import Mathlib.Data.Fintype.BigOperators
import Mathlib.Data.Fintype.Pigeonhole
import Mathlib.Data.List.DropRight
import Mathlib.Tactic.NormNum
import Gatehouse.Crypto.Hmac

/-!
# How a key enters an authentication code

A key is brought to one block before it is used: a long one is hashed and a short one is filled up
with zero octets. So keys that differ in zero octets at their ends alone are one key
(`keyBlock_eq_iff`).  The block of a key stands in front of what is hashed last, and therefore two
other keys give one code for a message only if they show a collision of the hash (`mac_eq_iff`).
Such collisions exist, since there are more keys than codes (`exists_mac_eq`).
-/

namespace Gatehouse

/-- Two messages with the same digest. -/
structure Sha256.Collision (m m' : Bytes) : Prop where
  distinct : m ≠ m'
  same : Sha256.digest m = Sha256.digest m'

namespace Hmac

/-- A key that is longer than a block is replaced by its digest. -/
def shortened (key : Bytes) : Bytes := if key.length > 64 then Sha256.digest key else key

/-- What a key is told by: the shortened key without the zero octets at its end. -/
def trimmed (key : Bytes) : Bytes := (shortened key).rdropWhile (· == 0)

/-- What is hashed last for a code: the masked block of the key, and behind it the inner digest. -/
def outer (key message : Bytes) : Bytes :=
  (keyBlock key).map (· ^^^ 0x5c) ++ Sha256.digest ((keyBlock key).map (· ^^^ 0x36) ++ message)

variable {k k' : Bytes}

/-- A shortened key fits into a block. -/
lemma length_shortened_le (key : Bytes) : (shortened key).length ≤ 64 := by
  unfold shortened
  split
  case isTrue => rw [Sha256.length_digest]; decide
  case isFalse short => exact Nat.le_of_not_lt short

/-- The block of a key is the shortened key, filled up with zero octets. -/
lemma keyBlock_eq (key : Bytes) :
    keyBlock key = shortened key ++ List.replicate (64 - (shortened key).length) 0 := rfl

/-- The block of a key has 64 octets. -/
lemma length_keyBlock (key : Bytes) : (keyBlock key).length = 64 := by
  rw [keyBlock_eq, List.length_append, List.length_replicate,
    Nat.add_sub_cancel' (length_shortened_le key)]

/-- Zero octets at the end are taken away with all others there. -/
lemma rdropWhile_append_zeros (l : Bytes) (n : Nat) :
    (l ++ List.replicate n 0).rdropWhile (· == 0) = l.rdropWhile (· == 0) := by
  induction n with
  | zero => rw [List.replicate_zero, List.append_nil]
  | succ n ih =>
    rw [List.replicate_succ', ← List.append_assoc, List.rdropWhile_concat_pos _ _ _ rfl, ih]

/-- Octets are told by what is left without the zeros at their end, if their number is known. -/
lemma eq_of_rdropWhile_eq {l l' : Bytes} (long : l.length = l'.length)
    (e : l.rdropWhile (· == 0) = l'.rdropWhile (· == 0)) : l = l' := by
  have zeros (l : Bytes) : l = l.rdropWhile (· == 0) ++
      List.replicate (l.rtakeWhile (· == 0)).length 0 := by
    have all : l.rtakeWhile (· == 0) = List.replicate (l.rtakeWhile (· == 0)).length 0 :=
      List.eq_replicate_of_mem fun b member => by simpa using List.mem_rtakeWhile_imp member
    rw [← all, List.rdropWhile_append_rtakeWhile]
  -- the zeros at the end are as many as are left of the length
  have parts := congrArg List.length (zeros l)
  have parts' := congrArg List.length (zeros l')
  rw [List.length_append, List.length_replicate] at parts parts'
  have count : (l.rtakeWhile (· == 0)).length = (l'.rtakeWhile (· == 0)).length := by
    rw [e] at parts
    omega
  rw [zeros l, zeros l', e, count]

/-- Two keys fill one block exactly if they agree up to the zero octets at their ends. -/
lemma keyBlock_eq_iff : keyBlock k = keyBlock k' ↔ trimmed k = trimmed k' := by
  have drops (key : Bytes) : (keyBlock key).rdropWhile (· == 0) = trimmed key := by
    rw [keyBlock_eq, rdropWhile_append_zeros, trimmed]
  constructor
  · intro same
    rw [← drops k, ← drops k', same]
  · intro same
    apply eq_of_rdropWhile_eq
    · rw [length_keyBlock, length_keyBlock]
    · rw [drops k, drops k', same]

/-- What is hashed last tells the block of the key. -/
lemma keyBlock_eq_of_outer_eq {m m' : Bytes} (e : outer k m = outer k' m') :
    keyBlock k = keyBlock k' := by
  have blocks : (keyBlock k).map (· ^^^ 0x5c) = (keyBlock k').map (· ^^^ 0x5c) :=
    (List.append_inj e (by rw [List.length_map, List.length_map, length_keyBlock,
      length_keyBlock])).1
  exact (List.map_inj_right fun _ _ masked => (UInt8.xor_left_inj _).mp masked).mp blocks

/--
Two keys give one code for a message exactly if they are one key or show a collision of the hash.
-/
lemma mac_eq_iff (m : Bytes) :
    mac k m = mac k' m ↔ trimmed k = trimmed k' ∨ Sha256.Collision (outer k m) (outer k' m) := by
  rw [← keyBlock_eq_iff]
  constructor
  · intro same
    by_cases hashed : outer k m = outer k' m
    · exact .inl (keyBlock_eq_of_outer_eq hashed)
    · exact .inr ⟨hashed, same⟩
  · rintro (same | collision)
    · exact mac_eq_of_keyBlock_eq same m
    · exact collision.same

/-- A key of at most one block with no zero octet at its end is told by itself. -/
lemma trimmed_eq_self (short : k.length ≤ 64) (ends : k.getLast? ≠ some 0) : trimmed k = k := by
  rw [trimmed, shortened, if_neg (Nat.not_lt.mpr short), List.rdropWhile_eq_self_iff]
  intro some_octet zero
  exact ends (by rw [List.getLast?_eq_some_getLast some_octet, eq_of_beq zero])

/-- Two long keys are one key only if they show a collision. -/
lemma collision_of_trimmed_eq (long : 64 < k.length) (long' : 64 < k'.length) (ne : k ≠ k')
    (e : trimmed k = trimmed k') : Sha256.Collision k k' := by
  refine ⟨ne, ?_⟩
  rw [trimmed, trimmed, shortened, shortened, if_pos long, if_pos long'] at e
  exact eq_of_rdropWhile_eq (by rw [Sha256.length_digest, Sha256.length_digest]) e

/-- The keys of thirty-three octets of which none is zero. -/
def filled (f : Fin 33 → Fin 255) : Bytes := List.ofFn fun i => UInt8.ofNat (f i + 1)

/-- Such a key has thirty-three octets. -/
lemma length_filled (f : Fin 33 → Fin 255) : (filled f).length = 33 := List.length_ofFn

/-- Each of its octets is one more than its number. -/
lemma toNat_filled (i : Fin 255) : (UInt8.ofNat (i + 1)).toNat = i + 1 := by
  have bound := i.isLt
  rw [UInt8.toNat_ofNat', Nat.mod_eq_of_lt (by omega)]

/-- Different numbers make different keys. -/
lemma filled_inj {f g : Fin 33 → Fin 255} (e : filled f = filled g) : f = g := by
  funext i
  have octet := congrArg UInt8.toNat (congrFun (List.ofFn_injective e) i)
  rw [toNat_filled, toNat_filled] at octet
  exact Fin.ext (Nat.succ.inj octet)

/-- Such a key has no zero octet at its end. -/
lemma trimmed_filled (f : Fin 33 → Fin 255) : trimmed (filled f) = filled f := by
  refine trimmed_eq_self (by rw [length_filled]; decide) fun zero => ?_
  obtain ⟨i, e⟩ := List.mem_ofFn.mp (List.mem_of_getLast? zero)
  have octet := congrArg UInt8.toNat e
  rw [toNat_filled] at octet
  exact absurd octet (Nat.succ_ne_zero _)

/-- The octets of the code of a message under a key of this kind. -/
def codeFilled (m : Bytes) (f : Fin 33 → Fin 255) (i : Fin 32) : Fin 256 :=
  ⟨((mac (filled f) m).get ⟨i, by rw [length_mac]; exact i.isLt⟩).toNat, UInt8.toNat_lt _⟩

/-- Codes with the same octets are the same. -/
lemma mac_eq_of_codeFilled_eq {m : Bytes} {f g : Fin 33 → Fin 255}
    (e : codeFilled m f = codeFilled m g) :
    mac (filled f) m = mac (filled g) m := by
  refine List.ext_getElem (by rw [length_mac, length_mac]) fun i hi _ => ?_
  rw [length_mac] at hi
  exact UInt8.toNat_inj.mp (congrArg Fin.val (congrFun e ⟨i, hi⟩))

/-- There are more keys than codes, so two keys that are not one have the same code. -/
lemma exists_mac_eq (m : Bytes) : ∃ k k' :
    Bytes, k ≠ [] ∧ k' ≠ [] ∧ trimmed k ≠ trimmed k' ∧ mac k m = mac k' m := by
  have fewer : Fintype.card (Fin 32 → Fin 256) < Fintype.card (Fin 33 → Fin 255) := by
    simp only [Fintype.card_fun, Fintype.card_fin]
    norm_num
  obtain ⟨f, g, ne, same⟩ := Fintype.exists_ne_map_eq_of_card_lt (codeFilled m) fewer
  have some_octet (f) : filled f ≠ [] := List.ne_nil_of_length_eq_add_one (length_filled f)
  refine ⟨filled f, filled g, some_octet f, some_octet g, ?_, mac_eq_of_codeFilled_eq same⟩
  rw [trimmed_filled, trimmed_filled]
  exact fun e => ne (filled_inj e)

end Hmac

end Gatehouse
