import TrustRoot.Zstandard.Basic
import TrustRoot.Zstandard.Literals
import TrustRoot.Zstandard.Matching
import TrustRoot.Zstandard.SequenceCode

/-!
# Coded blocks

A coded block tells its octets by literals and by sequences, which say where literals go and what is
copied. This library reads coded blocks that need nothing from other blocks and use the usual codes
for sequences.
-/

namespace TrustRoot.Zstandard.Coded

def encode? (content : Array UInt8) : Option Bytes := do
  let matching := Matching.ofContent content
  return Literals.write matching.literals.toList ++ (← Sequence.write? matching.sequences)

/-- The content that some octets tell in code, if they can be read. -/
def decode? (code : Bytes) : Option Bytes := do
  let (literals, rest) ← Literals.read? largestBlock code
  let content ← Sequence.content? largestBlock literals.toArray 0 #[] (← Sequence.readText? rest)
  return content.toList

end TrustRoot.Zstandard.Coded
