import TrustRoot.Document.Basic

/-!
# Projection and text

A document is projected to a JSON object with one member per field. Its text is that object,
indented, with names ascending at every level. Packing puts the text with all signatures into an
envelope, if one is asked for.
-/

namespace TrustRoot.Document

def coreAsesJson (coreAses : Dict CoreKeys) : Json := .ofDict (coreAses.map CoreKeys.toJson)

def signaturesJson (signatures : Dict Bytes) : Json :=
  .ofDict (signatures.map fun signature => .string (Base64.encodeText signature))

/-- The value of a field as it travels. -/
def project (document : Document) : Field → Json
  | .isd => .natural document.isd.toUInt64
  | .description => .string document.description
  | .version => .natural document.version
  | .creationTime => .natural document.creationTime
  | .coreAses => coreAsesJson document.coreAses
  | .rootCas => .ofDict document.rootCas
  | .pkiLogs => .ofDict document.pkiLogs
  | .quorumEepki => .natural document.quorumEepki.toUInt64
  | .rootRainsKey => .string (Base64.encodeText document.rootRainsKey)
  | .quorumOwnTrc => .natural document.quorumOwnTrc.toUInt64
  | .quorumCas => .natural document.quorumCas.toUInt64
  | .quarantine => .bool document.quarantine
  | .signatures => signaturesJson document.signatures
  | .gracePeriod => .natural document.gracePeriod

def projectedFields (includeSignatures : Bool) : List Field :=
  Field.all.filter fun field => includeSignatures || field != .signatures

def projectFields (document : Document) (includeSignatures : Bool) : Dict Json :=
  .ofList ((projectedFields includeSignatures).map fun field =>
    (field.name, document.project field))

def text (document : Document) (includeSignatures : Bool) : String :=
  (Json.ofDict (document.projectFields includeSignatures)).render .indented

end TrustRoot.Document
