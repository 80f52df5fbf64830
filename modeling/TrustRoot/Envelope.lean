import TrustRoot.Error
import TrustRoot.FrameLibrary

/-!
# Envelopes

A packed configuration may travel inside a compressed envelope. A codec closes and opens envelopes;
the library is generic in it. The Zstandard codec has its frames made and read by a library of
frames and bounds the content that it lets out, and the plain codec leaves octets as they are.
-/

namespace TrustRoot

/-- A way to close and open envelopes. -/
structure PayloadCodec where
  compress : Bytes → Except EnvelopeFault Bytes
  decompress : Bytes → Except EnvelopeFault Bytes

/-- Opening what was closed gives the octets back. -/
def PayloadCodec.Lossless (codec : PayloadCodec) : Prop :=
  ∀ content, ∃ envelope,
    codec.compress content = .ok envelope ∧ codec.decompress envelope = .ok content

namespace PayloadCodec

/-- The codec without envelopes. -/
def plain : PayloadCodec where
  compress := .ok
  decompress := .ok

/-- The number of octets to read under a limit: one beyond it is enough to see that there are too
many. The sum has 64 bits, and the run breaks off where it does not fit them. -/
def budgetOf (limit : UInt64) : Except EnvelopeFault Nat :=
  if limit.toNat + 1 < 2 ^ 64 then .ok (limit.toNat + 1) else .error .overflow

/-- The content of a Zstandard envelope of at most `limit` octets. -/
def openZstandard (library : FrameLibrary) (limit : UInt64) (envelope : Bytes) :
    Except EnvelopeFault Bytes := do
  let reader ← (library.start envelope).mapError .codec
  let budget ← budgetOf limit
  let content ← (library.readUpTo budget reader).mapError .codec
  if limit.toNat < content.length then .error (.exceeds limit.toNat) else .ok content

/-- The codec of Zstandard frames with at most `limit` octets of content. -/
def zstandard (library : FrameLibrary) (level : Int) (limit : UInt64) : PayloadCodec where
  compress content := (library.encode level content).mapError .codec
  decompress := openZstandard library limit

theorem plain_lossless : plain.Lossless := fun content => ⟨content, rfl, rfl⟩

end PayloadCodec

end TrustRoot
