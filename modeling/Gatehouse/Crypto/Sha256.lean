import Gatehouse.Bytes

/-!
# SHA-256

The hash of FIPS 180-4 over octet strings: padding to whole blocks of sixty-four octets, the message
schedule of sixty-four words, and the fold of the compression over the blocks.
-/

namespace Gatehouse.Sha256

/-- The eight working words. -/
structure Words where
  a : UInt32
  b : UInt32
  c : UInt32
  d : UInt32
  e : UInt32
  f : UInt32
  g : UInt32
  h : UInt32
deriving DecidableEq, Repr

/-- The fractional bits of the cube roots of the first sixty-four primes. -/
def roundConstants : List UInt32 := [
  0x428a2f98, 0x71374491, 0xb5c0fbcf, 0xe9b5dba5, 0x3956c25b, 0x59f111f1, 0x923f82a4, 0xab1c5ed5,
  0xd807aa98, 0x12835b01, 0x243185be, 0x550c7dc3, 0x72be5d74, 0x80deb1fe, 0x9bdc06a7, 0xc19bf174,
  0xe49b69c1, 0xefbe4786, 0x0fc19dc6, 0x240ca1cc, 0x2de92c6f, 0x4a7484aa, 0x5cb0a9dc, 0x76f988da,
  0x983e5152, 0xa831c66d, 0xb00327c8, 0xbf597fc7, 0xc6e00bf3, 0xd5a79147, 0x06ca6351, 0x14292967,
  0x27b70a85, 0x2e1b2138, 0x4d2c6dfc, 0x53380d13, 0x650a7354, 0x766a0abb, 0x81c2c92e, 0x92722c85,
  0xa2bfe8a1, 0xa81a664b, 0xc24b8b70, 0xc76c51a3, 0xd192e819, 0xd6990624, 0xf40e3585, 0x106aa070,
  0x19a4c116, 0x1e376c08, 0x2748774c, 0x34b0bcb5, 0x391c0cb3, 0x4ed8aa4a, 0x5b9cca4f, 0x682e6ff3,
  0x748f82ee, 0x78a5636f, 0x84c87814, 0x8cc70208, 0x90befffa, 0xa4506ceb, 0xbef9a3f7, 0xc67178f2]

/-- The fractional bits of the square roots of the first eight primes. -/
def initial : Words :=
  ⟨0x6a09e667, 0xbb67ae85, 0x3c6ef372, 0xa54ff53a, 0x510e527f, 0x9b05688c, 0x1f83d9ab, 0x5be0cd19⟩

/-- Rotation to the right by `n`, for `0 < n < 32`. -/
def rotate (x : UInt32) (n : UInt32) : UInt32 := (x >>> n) ||| (x <<< (32 - n))

/-- The word that four octets write, most significant first. -/
def wordOf (b0 b1 b2 b3 : UInt8) : UInt32 :=
  (b0.toUInt32 <<< 24) ||| (b1.toUInt32 <<< 16) ||| (b2.toUInt32 <<< 8) ||| b3.toUInt32

/-- The words that an octet string writes; what is left of a last word is dropped. -/
def wordsOf : Bytes → List UInt32
  | b0 :: b1 :: b2 :: b3 :: rest => wordOf b0 b1 b2 b3 :: wordsOf rest
  | _ => []

/-- The octets of a word, most significant first. -/
def octetsOf (w : UInt32) : Bytes :=
  [(w >>> 24).toUInt8, (w >>> 16).toUInt8, (w >>> 8).toUInt8, w.toUInt8]

/-- The next word of the schedule, from the last sixteen, latest first. -/
def nextWord (recent : List UInt32) : UInt32 :=
  let w2 := recent.getD 1 0
  let w15 := recent.getD 14 0
  let s0 := rotate w15 7 ^^^ rotate w15 18 ^^^ (w15 >>> 3)
  let s1 := rotate w2 17 ^^^ rotate w2 19 ^^^ (w2 >>> 10)
  recent.getD 15 0 + s0 + recent.getD 6 0 + s1

/-- A block's words followed by `n` words computed from those before them, latest first. -/
def extend (recent : List UInt32) : Nat → List UInt32
  | 0 => recent
  | n + 1 => extend (nextWord recent :: recent) n

/-- One round with its constant and its word of the schedule. -/
def round (s : Words) (kw : UInt32 × UInt32) : Words :=
  let s1 := rotate s.e 6 ^^^ rotate s.e 11 ^^^ rotate s.e 25
  let choice := (s.e &&& s.f) ^^^ ((~~~ s.e) &&& s.g)
  let t1 := s.h + s1 + choice + kw.1 + kw.2
  let s0 := rotate s.a 2 ^^^ rotate s.a 13 ^^^ rotate s.a 22
  let majority := (s.a &&& s.b) ^^^ (s.a &&& s.c) ^^^ (s.b &&& s.c)
  ⟨t1 + s0 + majority, s.a, s.b, s.c, s.d + t1, s.e, s.f, s.g⟩

/-- The compression of one block into the working words. -/
def compress (s : Words) (block : List UInt32) : Words :=
  let schedule := (extend block.reverse 48).reverse
  let t := (roundConstants.zip schedule).foldl round s
  ⟨s.a + t.a, s.b + t.b, s.c + t.c, s.d + t.d, s.e + t.e, s.f + t.f, s.g + t.g, s.h + t.h⟩

/-- The length in bits as eight octets, most significant first. -/
def lengthOctets (n : Nat) : Bytes :=
  [56, 48, 40, 32, 24, 16, 8, 0].map fun k => UInt8.ofNat (n * 8 / Nat.pow 2 k)

/-- The message, a one bit, zeros up to a whole block, and the length in the last eight octets. -/
def padded (m : Bytes) : Bytes :=
  m ++ 0x80 :: List.replicate ((119 - m.length % 64) % 64) 0 ++ lengthOctets m.length

/-- The compression of all blocks of sixteen words. -/
def compressAll (s : Words) (ws : List UInt32) : Words :=
  if ws.length < 16 then s
  else compressAll (compress s (ws.take 16)) (ws.drop 16)
termination_by ws.length
decreasing_by simp only [List.length_drop]; omega

/-- The digest: thirty-two octets. -/
def digest (m : Bytes) : Bytes :=
  let s := compressAll initial (wordsOf (padded m))
  [s.a, s.b, s.c, s.d, s.e, s.f, s.g, s.h].flatMap octetsOf

/-- A word has four octets. -/
@[simp]
theorem length_octetsOf (w : UInt32) : (octetsOf w).length = 4 := rfl

/-- A digest has 32 octets. -/
@[simp]
theorem length_digest (m : Bytes) : (digest m).length = 32 := by
  simp [digest, List.flatMap_cons]

end Gatehouse.Sha256
