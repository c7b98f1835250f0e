import Gatehouse.Crypto.Sha256

/-!
# HMAC-SHA-256

Keyed authentication of octet strings.  A key enters only through `Hmac.keyBlock`: keys longer than
a block are hashed first, and every key is filled up with zero octets to a whole block, so two keys
with one block give the same code for every message (`mac_eq_of_keyBlock_eq`).
-/

namespace Gatehouse.Hmac

/-- A key as one block of sixty-four octets. -/
def keyBlock (key : Bytes) : Bytes :=
  let k := if key.length > 64 then Sha256.digest key else key
  k ++ List.replicate (64 - k.length) 0

/-- The authentication code of a message under a key. -/
def mac (key message : Bytes) : Bytes :=
  let block := keyBlock key
  let inner := Sha256.digest (block.map (· ^^^ 0x36) ++ message)
  Sha256.digest (block.map (· ^^^ 0x5c) ++ inner)

/-- A code has the length of a digest. -/
@[simp]
theorem length_mac (key message : Bytes) : (mac key message).length = 32 := by simp [mac]

/-- A key enters a code through its block alone. -/
theorem mac_eq_of_keyBlock_eq {k₁ k₂ : Bytes} (h : keyBlock k₁ = keyBlock k₂) (m : Bytes) :
    mac k₁ m = mac k₂ m := by simp only [mac, h]

end Gatehouse.Hmac
