/-!
# DesignTokens.Digest.Sha256 — the hash function SHA-256

1. **Padding** (`Sha256.pad`): a one bit, zeros, and the length fill the last block of 64 bytes.
2. **Compression** (`Sha256.compress`): 64 rounds mix a block into the chaining value. The words of
   the block are a window of sixteen that moves on by one word each round.
3. **Digest** (`Sha256.digest`): the eight words of the last chaining value.
-/

namespace DesignTokens.Sha256

/-! ## Constants -/

/-- A word for each round: the fractions of the cube roots of the first 64 primes. -/
def roundConstants : List UInt32 :=
  [0x428a2f98, 0x71374491, 0xb5c0fbcf, 0xe9b5dba5, 0x3956c25b, 0x59f111f1, 0x923f82a4, 0xab1c5ed5,
   0xd807aa98, 0x12835b01, 0x243185be, 0x550c7dc3, 0x72be5d74, 0x80deb1fe, 0x9bdc06a7, 0xc19bf174,
   0xe49b69c1, 0xefbe4786, 0x0fc19dc6, 0x240ca1cc, 0x2de92c6f, 0x4a7484aa, 0x5cb0a9dc, 0x76f988da,
   0x983e5152, 0xa831c66d, 0xb00327c8, 0xbf597fc7, 0xc6e00bf3, 0xd5a79147, 0x06ca6351, 0x14292967,
   0x27b70a85, 0x2e1b2138, 0x4d2c6dfc, 0x53380d13, 0x650a7354, 0x766a0abb, 0x81c2c92e, 0x92722c85,
   0xa2bfe8a1, 0xa81a664b, 0xc24b8b70, 0xc76c51a3, 0xd192e819, 0xd6990624, 0xf40e3585, 0x106aa070,
   0x19a4c116, 0x1e376c08, 0x2748774c, 0x34b0bcb5, 0x391c0cb3, 0x4ed8aa4a, 0x5b9cca4f, 0x682e6ff3,
   0x748f82ee, 0x78a5636f, 0x84c87814, 0x8cc70208, 0x90befffa, 0xa4506ceb, 0xbef9a3f7, 0xc67178f2]

/-- The chaining value: eight words. -/
structure Chain where
  a : UInt32
  b : UInt32
  c : UInt32
  d : UInt32
  e : UInt32
  f : UInt32
  g : UInt32
  h : UInt32
deriving Repr, DecidableEq

/-- The first chaining value: the fractions of the square roots of the first eight primes. -/
def Chain.first : Chain :=
  ⟨0x6a09e667, 0xbb67ae85, 0x3c6ef372, 0xa54ff53a, 0x510e527f, 0x9b05688c, 0x1f83d9ab, 0x5be0cd19⟩

/-! ## Padding -/

/-- A number as eight bytes, the highest first. -/
def lengthBytes (n : Nat) : List UInt8 :=
  [56, 48, 40, 32, 24, 16, 8, 0].map fun shift => (n >>> shift).toUInt8

/-- The bytes up to a multiple of 64, with their length in bits at the end. -/
def pad (bytes : List UInt8) : List UInt8 :=
  -- With the one byte before the zeros and the eight after them, 128 bytes or none are added to
  -- the 64 that are looked at.
  let zeros := (119 - bytes.length % 64) % 64
  bytes ++ 0x80 :: List.replicate zeros 0 ++ lengthBytes (8 * bytes.length)

/-- The words of four bytes, the highest byte first. -/
def toWords : List UInt8 → List UInt32
  | a :: b :: c :: d :: rest =>
    (a.toUInt32 <<< 24 ||| b.toUInt32 <<< 16 ||| c.toUInt32 <<< 8 ||| d.toUInt32) :: toWords rest
  | _ => []

/-! ## Compression -/

/-- A word turned to the right. -/
def turn (x n : UInt32) : UInt32 :=
  x >>> n ||| x <<< (32 - n)

/-- The next word after a window of sixteen. -/
def nextWord (window : List UInt32) : UInt32 :=
  match window with
  | [w0, w1, _, _, _, _, _, _, _, w9, _, _, _, _, w14, _] =>
    let s0 := turn w1 7 ^^^ turn w1 18 ^^^ w1 >>> 3
    let s1 := turn w14 17 ^^^ turn w14 19 ^^^ w14 >>> 10
    w0 + s0 + w9 + s1
  | _ => 0

def round (x : Chain) (constant word : UInt32) : Chain :=
  let s1 := turn x.e 6 ^^^ turn x.e 11 ^^^ turn x.e 25
  let choice := (x.e &&& x.f) ^^^ (~~~ x.e &&& x.g)
  let t1 := x.h + s1 + choice + constant + word
  let s0 := turn x.a 2 ^^^ turn x.a 13 ^^^ turn x.a 22
  let majority := (x.a &&& x.b) ^^^ (x.a &&& x.c) ^^^ (x.b &&& x.c)
  ⟨t1 + s0 + majority, x.a, x.b, x.c, x.d + t1, x.e, x.f, x.g⟩

/-- A round for each constant, where the window starts with the word of the first round. -/
def rounds (x : Chain) (window : List UInt32) : List UInt32 → Chain
  | [] => x
  | constant :: more =>
    match window with
    | [] => x
    | word :: rest => rounds (round x constant word) (rest ++ [nextWord window]) more

/-- Mix a block of sixteen words into the chaining value. -/
def compress (x : Chain) (block : List UInt32) : Chain :=
  let y := rounds x block roundConstants
  ⟨x.a + y.a, x.b + y.b, x.c + y.c, x.d + y.d, x.e + y.e, x.f + y.f, x.g + y.g, x.h + y.h⟩

/-- Mix all blocks of sixteen words into the chaining value. -/
def compressAll (x : Chain) (words : List UInt32) : Chain :=
  if _h : words.length < 16 then x
  else compressAll (compress x (words.take 16)) (words.drop 16)
termination_by words.length
decreasing_by
  rw [List.length_drop]
  omega

/-! ## Digest -/

def Chain.words (x : Chain) : List UInt32 :=
  [x.a, x.b, x.c, x.d, x.e, x.f, x.g, x.h]

def digest (bytes : List UInt8) : List UInt32 :=
  (compressAll Chain.first (toWords (pad bytes))).words

/-- The eight digits of a word to the base sixteen. -/
def hexWord (word : UInt32) : List Char :=
  [28, 24, 20, 16, 12, 8, 4, 0].map fun shift => Nat.digitChar (word.toNat >>> shift % 16)

/-- The digest of some bytes, as digits to the base sixteen. -/
def hexDigest (bytes : List UInt8) : String :=
  String.ofList ((digest bytes).flatMap hexWord)

end DesignTokens.Sha256
