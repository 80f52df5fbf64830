import TrustRoot.Bytes

/-!
# Bit strings

The entropy codes of a block are bit strings. A bit string is kept in octets and read from its end:
the last octet goes first, and in an octet the highest bit. The first bit that is set in the last
octet marks the start of the string. Bits are listed in the order in which they are read.
-/

namespace TrustRoot.Zstandard

abbrev Bits := List Bool

namespace Bits

/-! ## Numbers -/

/-- The low `width` bits of a number, highest first. -/
def ofNat : (width : Nat) → Nat → Bits
  | 0, _ => []
  | width + 1, number => number.testBit width :: ofNat width number

/-- The number in the first `width` bits, and the bits after them, where the bits of `high` go in
front. -/
def readAfter? (high : Nat) : (width : Nat) → Bits → Option (Nat × Bits)
  | 0, bits => some (high, bits)
  | _ + 1, [] => none
  | width + 1, bit :: rest => readAfter? (2 * high + bit.toNat) width rest

/-- The number in the first `width` bits, and the bits after them. -/
def read? (width : Nat) (bits : Bits) : Option (Nat × Bits) := readAfter? 0 width bits

def toNat (bits : Bits) : Nat := bits.foldl (fun high bit => 2 * high + bit.toNat) 0

/-! ## Octets -/

/-- Puts some bits in front of octets, in which they come last. -/
def pushOctets (bits : Bits) (octets : Bytes) : Bytes :=
  match bits with
  | [] => octets
  | bit :: rest =>
    pushOctets ((bit :: rest).drop 8) (UInt8.ofNat (toNat ((bit :: rest).take 8)) :: octets)
termination_by bits.length
decreasing_by simp only [List.length_drop, List.length_cons]; omega

/-- The bits in front of a string: none, up to a whole number of octets, and the mark. -/
def start (size : Nat) : Bits := List.replicate (7 - size % 8) false ++ [true]

def pack (bits : Bits) : Bytes := pushOctets (start bits.length ++ bits) []

def ofOctets (octets : Bytes) : Bits :=
  octets.foldl (fun bits octet => ofNat 8 octet.toNat ++ bits) []

/-- The bit string in some octets, if the last of them holds the mark. -/
def unpack? (octets : Bytes) : Option Bits :=
  let bits := ofOctets octets
  if (bits.take 8).contains true then some ((bits.dropWhile fun bit => !bit).drop 1) else none

end Bits

end TrustRoot.Zstandard
