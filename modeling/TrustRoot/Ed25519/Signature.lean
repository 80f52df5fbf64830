import TrustRoot.Digest
import TrustRoot.Ed25519.Curve

/-!
# Ed25519 signatures

A key pair is derived from a seed of 32 octets. Signing is deterministic. Verification requires the
scalar of a signature to be below the group order and compares the encoding of `sB - kA` with the
first half of the signature, without clearing the cofactor; the challenge `k` covers the octets of
the public key as they are given.
-/

namespace TrustRoot.Ed25519

/-- Why key material or a signature is unusable. -/
inductive Fault where
  | keyLength (actual : Nat)
  | signatureLength (actual : Nat)
  | mismatch
  | publicKey
  deriving DecidableEq, Repr

def Fault.message : Fault → String
  | .keyLength actual => s!"Invalid key length: expected 32, got {actual}"
  | .signatureLength actual => s!"Invalid signature length: expected 64, got {actual}"
  | .mismatch => "Signature verification failed"
  | .publicKey => "Invalid public key"

/-- A secret seed of 32 octets. -/
structure KeyPair where
  seed : Bytes
  length_seed : seed.length = 32

def KeyPair.ofSeed (seed : Bytes) : Except Fault KeyPair :=
  if length : seed.length = 32 then .ok ⟨seed, length⟩ else .error (.keyLength seed.length)

/-- The secret scalar: the low half of the hashed seed without its three lowest bits, with bit 254
set as the highest. -/
def KeyPair.scalar (key : KeyPair) : Nat :=
  let low := Bytes.toNatLittle ((sha512 key.seed).take 32)
  2 ^ 254 + low % 2 ^ 254 / 8 * 8

/-- The high half of the hashed seed, which makes nonces unpredictable. -/
def KeyPair.nonceKey (key : KeyPair) : Bytes := (sha512 key.seed).drop 32

def KeyPair.publicKey (key : KeyPair) : Bytes := (Point.base.multiply key.scalar).encode

/-- The scalar below the group order that a digest stands for. -/
def challenge (octets : Bytes) : Nat := Bytes.toNatLittle (sha512 octets) % order

def KeyPair.sign (key : KeyPair) (message : Bytes) : Bytes :=
  let nonce := challenge (key.nonceKey ++ message)
  let commitment := (Point.base.multiply nonce).encode
  let answer := challenge (commitment ++ key.publicKey ++ message)
  commitment ++ Bytes.ofNatLittle 32 ((nonce + answer * key.scalar) % order)

def checkPublicKey (publicKey : Bytes) : Except Fault Point :=
  if publicKey.length ≠ 32 then .error (.keyLength publicKey.length)
  else match Point.decode? publicKey with
    | some point => .ok point
    | none => .error .publicKey

def checkSignature (signature : Bytes) : Except Fault Unit :=
  if signature.length = 64 then .ok () else .error (.signatureLength signature.length)

/-- Whether a signature of the right length verifies under the public key of a point. -/
def fits (message signature publicKey : Bytes) (point : Point) : Bool :=
  let commitment := signature.take 32
  let scalar := Bytes.toNatLittle (signature.drop 32)
  if order ≤ scalar then false
  else
    let answer := challenge (commitment ++ publicKey ++ message)
    let expected := (Point.base.multiply scalar).add (point.negate.multiply answer)
    expected.encode == commitment

/-- Whether a signature verifies; the public key is checked before the signature. -/
def verify (message signature publicKey : Bytes) : Except Fault Bool := do
  let point ← checkPublicKey publicKey
  checkSignature signature
  return fits message signature publicKey point

@[simp] theorem Point.length_encode (point : Point) : point.encode.length = 32 := by
  simp [Point.encode]

@[simp] theorem KeyPair.length_publicKey (key : KeyPair) : key.publicKey.length = 32 :=
  Point.length_encode _

@[simp] theorem KeyPair.length_sign (key : KeyPair) (message : Bytes) :
    (key.sign message).length = 64 := by
  simp [KeyPair.sign]

end TrustRoot.Ed25519
