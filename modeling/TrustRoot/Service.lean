import TrustRoot.Approval.Rotation
import TrustRoot.Document.Reading

/-!
# Trust root service

A service puts a signature scheme, a codec and a bound on the size of inputs together and offers
every operation on configurations.
-/

namespace TrustRoot

structure Settings where
  compressionLevel : Int := 3
  /-- The largest content that is let out of an envelope, in octets. -/
  maxDecompressed : UInt64 := 4194304
  maxPayload : UInt64 := 1048576
  deriving DecidableEq, Repr

/-- A signature scheme and a codec under some settings. -/
structure Service (Key : Type) where
  scheme : SignatureScheme Key
  codec : PayloadCodec
  settings : Settings

namespace Service

variable {Key : Type}

/-- The service with Ed25519 signatures and Zstandard envelopes. -/
def ed25519 (library : FrameLibrary) (settings : Settings) : Service Ed25519.KeyPair where
  scheme := .ed25519
  codec := .zstandard library settings.compressionLevel settings.maxDecompressed
  settings := settings

/-- The document of an input that is not too large. -/
def parse (service : Service Key) (compressed : Bool) (raw : Bytes) : Audited Document :=
  let size := raw.length
  let limit := service.settings.maxPayload.toNat
  if limit < size then do
    .emit (.oversized size limit)
    .fail (.payloadTooLarge size limit)
  else Document.ofRaw service.codec compressed raw

def pack (service : Service Key) (compress : Bool) (document : Document) : Except Error Bytes :=
  document.pack service.codec compress

def sign (service : Service Key) (document : Document) (signer : String) (key : Key) :
    Audited Document :=
  document.sign service.scheme signer key

def verifyQuorum (service : Service Key) (candidate reference : Document) : Audited Tally :=
  Quorum.verify service.scheme candidate reference

def verifyRotation (service : Service Key) (previous candidate : Document) : Audited Tally :=
  Rotation.verify service.scheme previous candidate

end Service

end TrustRoot
