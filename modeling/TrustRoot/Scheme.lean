import TrustRoot.Ed25519.Signature

/-!
# Signature schemes

The library signs and verifies through a scheme, of which it knows nothing else. A scheme refuses
unusable keys and signatures with a message; a usable signature that does not verify is no fault.
-/

namespace TrustRoot

/-- A way to sign and to verify, with signing keys of one type. -/
structure SignatureScheme (Key : Type) where
  sign : (payload : Bytes) → Key → Except String Bytes
  verify : (payload signature publicKey : Bytes) → Except String Bool

namespace SignatureScheme

def ed25519 : SignatureScheme Ed25519.KeyPair where
  sign payload key := .ok (key.sign payload)
  verify payload signature publicKey :=
    (Ed25519.verify payload signature publicKey).mapError Ed25519.Fault.message

/-- The scheme in which a key is its own signature of everything and its own public key. -/
def ownKey : SignatureScheme Bytes where
  sign _ key := .ok key
  verify _ signature publicKey := .ok (signature == publicKey)

end SignatureScheme

end TrustRoot
