import TrustRoot.Audit
import TrustRoot.Document.Projection
import TrustRoot.Envelope
import TrustRoot.Json.Reader

/-!
# Reading documents

A document is read from a JSON object that has exactly the fields of a configuration. Unknown names
are found first, then fields that are missing or unreadable in their order, then unreadable records
of core systems and signatures, then numbers that are too wide, and then rules that are broken.
-/

namespace TrustRoot.Document

def checkNames (object : Dict Json) : Except Error Unit :=
  match object.keys.find? fun name => (Field.ofName? name).isNone with
  | some unknown => .error (.malformed unknown .unknownField)
  | none => .ok ()

def readField (object : Dict Json) (field : Field) : Except Error field.kind.Value :=
  match object.get? field.name with
  | some found => (field.kind.read found).mapError fun fault => .malformed field.name (.value fault)
  | none => malformed field .missing

def readCoreKeys (identifier : String) (found : Json) : Except Error CoreKeys :=
  (CoreKeys.ofJson found).mapError fun fault =>
    .malformed Field.coreAses.name (.coreKeys identifier fault)

def readSignature (signer : String) (found : Json) : Except Error Bytes :=
  (Kind.octets.read found).mapError fun fault =>
    .malformed Field.signatures.name (.signature signer fault)

def narrow16 (field : Field) (number : UInt64) : Except Error UInt16 :=
  if number.toNat < 2 ^ 16 then .ok number.toUInt16 else malformed field (.outOfRange number)

def narrow32 (field : Field) (number : UInt64) : Except Error UInt32 :=
  if number.toNat < 2 ^ 32 then .ok number.toUInt32 else malformed field (.outOfRange number)

/-- The document that an object writes. -/
def ofWire (object : Dict Json) : Except Error Document := do
  checkNames object
  let isd ← readField object .isd
  let description ← readField object .description
  let version ← readField object .version
  let creationTime ← readField object .creationTime
  let coreAses ← readField object .coreAses
  let rootCas ← readField object .rootCas
  let pkiLogs ← readField object .pkiLogs
  let quorumEepki ← readField object .quorumEepki
  let rootRainsKey ← readField object .rootRainsKey
  let quorumOwnTrc ← readField object .quorumOwnTrc
  let quorumCas ← readField object .quorumCas
  let quarantine ← readField object .quarantine
  let signatures ← readField object .signatures
  let gracePeriod ← readField object .gracePeriod
  let coreAses ← Dict.traverse coreAses readCoreKeys
  let signatures ← Dict.traverse signatures readSignature
  let isd ← narrow16 .isd isd
  let quorumEepki ← narrow32 .quorumEepki quorumEepki
  let quorumOwnTrc ← narrow32 .quorumOwnTrc quorumOwnTrc
  let quorumCas ← narrow32 .quorumCas quorumCas
  check {
    isd := isd, description := description, version := version, creationTime := creationTime
    coreAses := coreAses, rootCas := rootCas, pkiLogs := pkiLogs, quorumEepki := quorumEepki
    rootRainsKey := rootRainsKey, quorumOwnTrc := quorumOwnTrc, quorumCas := quorumCas
    quarantine := quarantine, signatures := signatures, gracePeriod := gracePeriod }

def ofText (text : Bytes) : Except Error Document :=
  match Json.parse text with
  | .error report => .error (.malformed Error.wholeDocument (.json report))
  | .ok (.object members) => ofWire (.ofList members)
  | .ok _ => .error (.malformed Error.wholeDocument .notAnObject)

/-- The octets of a text, taken out of its envelope if there is one. -/
def unwrap (codec : PayloadCodec) (compressed : Bool) (raw : Bytes) : Except Error Bytes :=
  if compressed then (codec.decompress raw).mapError .compression else .ok raw

/-- The document that an input holds. -/
def ofRaw (codec : PayloadCodec) (compressed : Bool) (raw : Bytes) : Audited Document := do
  let text ← .ofResult (unwrap codec compressed raw)
  let document ← .ofResult (ofText text)
  .emit (.parsed document.isd document.version document.signatures.size)
  return document

/-- The text of a document with its signatures, in an envelope if one is asked for. -/
def pack (codec : PayloadCodec) (compress : Bool) (document : Document) : Except Error Bytes :=
  let text := Bytes.ofText (document.text true)
  if compress then (codec.compress text).mapError .compression else .ok text

end TrustRoot.Document
