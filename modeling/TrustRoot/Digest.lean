import TrustRoot.Bytes

/-!
# The SHA-2 digests

A message is padded to blocks of sixteen words. Each block is expanded to a schedule of words,
which are mixed one by one into eight words of state; the digest is the state after the last
block. One definition covers both word widths: SHA-256 and SHA-512 differ in their constants only.
-/

namespace TrustRoot

structure Sha2State (width : Nat) where
  a : BitVec width
  b : BitVec width
  c : BitVec width
  d : BitVec width
  e : BitVec width
  f : BitVec width
  g : BitVec width
  h : BitVec width

def Sha2State.add {width : Nat} (first second : Sha2State width) : Sha2State width :=
  ⟨first.a + second.a, first.b + second.b, first.c + second.c, first.d + second.d,
    first.e + second.e, first.f + second.f, first.g + second.g, first.h + second.h⟩

def Sha2State.toList {width : Nat} (state : Sha2State width) : List (BitVec width) :=
  [state.a, state.b, state.c, state.d, state.e, state.f, state.g, state.h]

/-- What distinguishes the SHA-2 digests with words of `width` bits. -/
structure Sha2 (width : Nat) where
  wordOctets : Nat
  lengthOctets : Nat
  /-- The state before the first block. -/
  initial : Sha2State width
  roundConstants : List (BitVec width)
  oldWord : Nat × Nat × Nat
  recentWord : Nat × Nat × Nat
  /-- The rotations of the first word of state. -/
  firstWord : Nat × Nat × Nat
  fifthWord : Nat × Nat × Nat

namespace Sha2

variable {width : Nat}

def rotations (amounts : Nat × Nat × Nat) (word : BitVec width) : BitVec width :=
  word.rotateRight amounts.1 ^^^ word.rotateRight amounts.2.1 ^^^ word.rotateRight amounts.2.2

/-- The exclusive or of a word rotated down by two amounts and shifted down by a third. -/
def rotationsAndShift (amounts : Nat × Nat × Nat) (word : BitVec width) : BitVec width :=
  word.rotateRight amounts.1 ^^^ word.rotateRight amounts.2.1 ^^^ word >>> amounts.2.2

/-- The words of a block, each most significant octet first. -/
def words (sha : Sha2 width) (count : Nat) (block : Bytes) : List (BitVec width) :=
  (List.range count).map fun index =>
    let octets := (block.drop (index * sha.wordOctets)).take sha.wordOctets
    BitVec.ofNat width (Bytes.toNatLittle octets.reverse)

/-- The schedule extended by `count` words, latest first. -/
def extend (sha : Sha2 width) : (count : Nat) → List (BitVec width) → List (BitVec width)
  | 0, latest => latest
  | count + 1, latest =>
    let word := latest.getD 15 0 + rotationsAndShift sha.oldWord (latest.getD 14 0) +
      latest.getD 6 0 + rotationsAndShift sha.recentWord (latest.getD 1 0)
    extend sha count (word :: latest)

def mix (sha : Sha2 width) (state : Sha2State width)
    (word : BitVec width × BitVec width) : Sha2State width :=
  let ⟨a, b, c, d, e, f, g, h⟩ := state
  let choice := (e &&& f) ^^^ (~~~e &&& g)
  let majority := (a &&& b) ^^^ (a &&& c) ^^^ (b &&& c)
  let first := h + rotations sha.fifthWord e + choice + word.1 + word.2
  let second := rotations sha.firstWord a + majority
  ⟨first + second, a, b, c, d + first, e, f, g⟩

def absorb (sha : Sha2 width) (state : Sha2State width) (block : Bytes) :
    Sha2State width :=
  let schedule := sha.extend (sha.roundConstants.length - 16) (sha.words 16 block).reverse
  let mixed := (sha.roundConstants.zip schedule.reverse).foldl sha.mix state
  state.add mixed

def blockOctets (sha : Sha2 width) : Nat := 16 * sha.wordOctets

/-- The message with a one bit, zeros and its length in bits, up to a whole number of blocks. -/
def pad (sha : Sha2 width) (message : Bytes) : Bytes :=
  let used := (message.length + 1 + sha.lengthOctets) % sha.blockOctets
  let zeros := (sha.blockOctets - used) % sha.blockOctets
  message ++ 0x80 :: List.replicate zeros 0 ++
    Bytes.ofNatBig sha.lengthOctets (8 * message.length)

def absorbBlocks (sha : Sha2 width) :
    (count : Nat) → Sha2State width → Bytes → Sha2State width
  | 0, state, _ => state
  | count + 1, state, text =>
    absorbBlocks sha count (sha.absorb state (text.take sha.blockOctets))
      (text.drop sha.blockOctets)

def digest (sha : Sha2 width) (message : Bytes) : Bytes :=
  let padded := sha.pad message
  let state := sha.absorbBlocks (padded.length / sha.blockOctets) sha.initial padded
  state.toList.flatMap fun word => Bytes.ofNatBig sha.wordOctets word.toNat

@[simp] theorem length_digest (sha : Sha2 width) (message : Bytes) :
    (sha.digest message).length = 8 * sha.wordOctets := by
  simp only [digest, Sha2State.toList, List.flatMap_cons, List.flatMap_nil, List.length_append,
    Bytes.length_ofNatBig, List.length_nil]
  omega

end Sha2

/-- SHA-256: words of 32 bits. The constants are the fractional parts of the square roots of the
first eight primes and of the cube roots of the first 64 primes. -/
def sha256Constants : Sha2 32 where
  wordOctets := 4
  lengthOctets := 8
  initial := ⟨
    0x6a09e667, 0xbb67ae85, 0x3c6ef372, 0xa54ff53a,
    0x510e527f, 0x9b05688c, 0x1f83d9ab, 0x5be0cd19⟩
  roundConstants := [
    0x428a2f98, 0x71374491, 0xb5c0fbcf, 0xe9b5dba5, 0x3956c25b, 0x59f111f1,
    0x923f82a4, 0xab1c5ed5, 0xd807aa98, 0x12835b01, 0x243185be, 0x550c7dc3,
    0x72be5d74, 0x80deb1fe, 0x9bdc06a7, 0xc19bf174, 0xe49b69c1, 0xefbe4786,
    0x0fc19dc6, 0x240ca1cc, 0x2de92c6f, 0x4a7484aa, 0x5cb0a9dc, 0x76f988da,
    0x983e5152, 0xa831c66d, 0xb00327c8, 0xbf597fc7, 0xc6e00bf3, 0xd5a79147,
    0x06ca6351, 0x14292967, 0x27b70a85, 0x2e1b2138, 0x4d2c6dfc, 0x53380d13,
    0x650a7354, 0x766a0abb, 0x81c2c92e, 0x92722c85, 0xa2bfe8a1, 0xa81a664b,
    0xc24b8b70, 0xc76c51a3, 0xd192e819, 0xd6990624, 0xf40e3585, 0x106aa070,
    0x19a4c116, 0x1e376c08, 0x2748774c, 0x34b0bcb5, 0x391c0cb3, 0x4ed8aa4a,
    0x5b9cca4f, 0x682e6ff3, 0x748f82ee, 0x78a5636f, 0x84c87814, 0x8cc70208,
    0x90befffa, 0xa4506ceb, 0xbef9a3f7, 0xc67178f2]
  oldWord := (7, 18, 3)
  recentWord := (17, 19, 10)
  firstWord := (2, 13, 22)
  fifthWord := (6, 11, 25)

/-- SHA-512: words of 64 bits. The constants are the fractional parts of the square roots of the
first eight primes and of the cube roots of the first 80 primes. -/
def sha512Constants : Sha2 64 where
  wordOctets := 8
  lengthOctets := 16
  initial := ⟨
    0x6a09e667f3bcc908, 0xbb67ae8584caa73b, 0x3c6ef372fe94f82b, 0xa54ff53a5f1d36f1,
    0x510e527fade682d1, 0x9b05688c2b3e6c1f, 0x1f83d9abfb41bd6b, 0x5be0cd19137e2179⟩
  roundConstants := [
    0x428a2f98d728ae22, 0x7137449123ef65cd, 0xb5c0fbcfec4d3b2f, 0xe9b5dba58189dbbc,
    0x3956c25bf348b538, 0x59f111f1b605d019, 0x923f82a4af194f9b, 0xab1c5ed5da6d8118,
    0xd807aa98a3030242, 0x12835b0145706fbe, 0x243185be4ee4b28c, 0x550c7dc3d5ffb4e2,
    0x72be5d74f27b896f, 0x80deb1fe3b1696b1, 0x9bdc06a725c71235, 0xc19bf174cf692694,
    0xe49b69c19ef14ad2, 0xefbe4786384f25e3, 0x0fc19dc68b8cd5b5, 0x240ca1cc77ac9c65,
    0x2de92c6f592b0275, 0x4a7484aa6ea6e483, 0x5cb0a9dcbd41fbd4, 0x76f988da831153b5,
    0x983e5152ee66dfab, 0xa831c66d2db43210, 0xb00327c898fb213f, 0xbf597fc7beef0ee4,
    0xc6e00bf33da88fc2, 0xd5a79147930aa725, 0x06ca6351e003826f, 0x142929670a0e6e70,
    0x27b70a8546d22ffc, 0x2e1b21385c26c926, 0x4d2c6dfc5ac42aed, 0x53380d139d95b3df,
    0x650a73548baf63de, 0x766a0abb3c77b2a8, 0x81c2c92e47edaee6, 0x92722c851482353b,
    0xa2bfe8a14cf10364, 0xa81a664bbc423001, 0xc24b8b70d0f89791, 0xc76c51a30654be30,
    0xd192e819d6ef5218, 0xd69906245565a910, 0xf40e35855771202a, 0x106aa07032bbd1b8,
    0x19a4c116b8d2d0c8, 0x1e376c085141ab53, 0x2748774cdf8eeb99, 0x34b0bcb5e19b48a8,
    0x391c0cb3c5c95a63, 0x4ed8aa4ae3418acb, 0x5b9cca4f7763e373, 0x682e6ff3d6b2b8a3,
    0x748f82ee5defb2fc, 0x78a5636f43172f60, 0x84c87814a1f0ab72, 0x8cc702081a6439ec,
    0x90befffa23631e28, 0xa4506cebde82bde9, 0xbef9a3f7b2c67915, 0xc67178f2e372532b,
    0xca273eceea26619c, 0xd186b8c721c0c207, 0xeada7dd6cde0eb1e, 0xf57d4f7fee6ed178,
    0x06f067aa72176fba, 0x0a637dc5a2c898a6, 0x113f9804bef90dae, 0x1b710b35131c471b,
    0x28db77f523047d84, 0x32caab7b40c72493, 0x3c9ebe0a15c9bebc, 0x431d67c49c100d4c,
    0x4cc5d4becb3e42b6, 0x597f299cfc657e2a, 0x5fcb6fab3ad6faec, 0x6c44198c4a475817]
  oldWord := (1, 8, 7)
  recentWord := (19, 61, 6)
  firstWord := (28, 34, 39)
  fifthWord := (14, 18, 41)

def sha256 (message : Bytes) : Bytes := sha256Constants.digest message

def sha512 (message : Bytes) : Bytes := sha512Constants.digest message

@[simp] theorem length_sha256 (message : Bytes) : (sha256 message).length = 32 :=
  Sha2.length_digest sha256Constants message

@[simp] theorem length_sha512 (message : Bytes) : (sha512 message).length = 64 :=
  Sha2.length_digest sha512Constants message

end TrustRoot
