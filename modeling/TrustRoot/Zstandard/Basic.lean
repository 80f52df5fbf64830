import TrustRoot.Bytes

/-!
# Zstandard blocks

A compressed text is a sequence of frames, and a frame a sequence of blocks. A block tells its
octets as they are, as one octet to be repeated, or in an entropy code. A block header takes three
octets: whether the frame ends with the block, how it tells its octets, and its size. It is read back
as it was written (`Block.Header.ofBits_bits`).
-/

namespace TrustRoot.Zstandard

/-- Why a text is not a sequence of readable frames. -/
inductive Fault where
  | truncated
  | unknownFrame
  | unsupported
  | windowTooLarge
  | invalidBlock
  | wrongSize
  deriving DecidableEq, Repr

def Fault.message : Fault → String
  | .truncated => "incomplete frame"
  | .unknownFrame => "unknown frame descriptor"
  | .unsupported => "unsupported frame parameter"
  | .windowTooLarge => "frame requires too much memory for decoding"
  | .invalidBlock => "data corruption detected"
  | .wrongSize => "content size mismatch"

def largestBlock : Nat := 131072

inductive Block.Kind where
  | stored
  | repeated
  | coded
  | reserved
  deriving DecidableEq, Repr

def Block.Kind.code : Block.Kind → Nat
  | .stored => 0
  | .repeated => 1
  | .coded => 2
  | .reserved => 3

def Block.Kind.ofCode (number : Nat) : Block.Kind :=
  match number % 4 with
  | 0 => .stored
  | 1 => .repeated
  | 2 => .coded
  | _ => .reserved

/-- What is told in front of a block. -/
structure Block.Header where
  last : Bool
  kind : Block.Kind
  /-- The number of octets behind the header, or how often one octet is repeated. -/
  size : Nat
  deriving DecidableEq, Repr

namespace Block.Header

def bits (header : Header) : Nat :=
  (if header.last then 1 else 0) + 2 * header.kind.code + 8 * header.size

def ofBits (number : Nat) : Header := ⟨number % 2 == 1, .ofCode (number / 2), number / 8⟩

theorem ofBits_bits (header : Header) : ofBits header.bits = header := by
  obtain ⟨last, kind, size⟩ := header
  have lastBit : ((if last then 1 else 0) + 2 * kind.code + 8 * size) % 2 =
      if last then 1 else 0 := by
    split <;> omega
  have kindBits : ((if last then 1 else 0) + 2 * kind.code + 8 * size) / 2 % 4 = kind.code := by
    have small : kind.code < 4 := by cases kind <;> decide
    split <;> omega
  have sizeBits : ((if last then 1 else 0) + 2 * kind.code + 8 * size) / 8 = size := by
    have small : kind.code < 4 := by cases kind <;> decide
    split <;> omega
  have sameKind : Kind.ofCode (((if last then 1 else 0) + 2 * kind.code + 8 * size) / 2) = kind := by
    rw [Kind.ofCode, kindBits]
    cases kind <;> rfl
  simp only [ofBits, bits, lastBit, sameKind, sizeBits]
  cases last <;> rfl

def extent (header : Header) : Nat := if header.kind = .repeated then 1 else header.size

end Block.Header

end TrustRoot.Zstandard
