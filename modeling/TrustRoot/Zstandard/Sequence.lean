import TrustRoot.Bytes

/-!
# Sequences of coded blocks

The content of a coded block is told in sequences. A sequence takes some octets from the literals and
then copies octets of the content from some way back. A copy may reach into itself and so repeat what
it copies. The literals that are left over end the content.
-/

namespace TrustRoot.Zstandard

structure Sequence where
  literals : Nat
  copied : Nat
  distance : Nat
  deriving DecidableEq, Repr

def copyBack (distance : Nat) (content : Array UInt8) : (count : Nat) → Array UInt8
  | 0 => content
  | count + 1 =>
    copyBack distance (content.push (content.getD (content.size - distance) 0)) count

namespace Sequence

/-- Whether there are literals and earlier content for a sequence, so that the content keeps within a
limit. -/
def fits (limit literals content : Nat) (sequence : Sequence) : Bool :=
  sequence.literals ≤ literals && 0 < sequence.distance &&
    sequence.distance ≤ content + sequence.literals &&
    content + sequence.literals + sequence.copied ≤ limit

def content? (limit : Nat) (literals : Array UInt8) (used : Nat) (content : Array UInt8) :
    (sequences : List Sequence) → Option (Array UInt8)
  | [] =>
    let content := content ++ literals.extract used literals.size
    if content.size ≤ limit then some content else none
  | sequence :: rest =>
    if sequence.fits limit (literals.size - used) content.size then
      let reached := used + sequence.literals
      let content := content ++ literals.extract used reached
      content? limit literals reached (copyBack sequence.distance content sequence.copied) rest
    else none

end Sequence

end TrustRoot.Zstandard
