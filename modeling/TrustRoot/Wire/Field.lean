import TrustRoot.Dict

/-!
# Fields of a trust root configuration

A configuration travels as a JSON object with fourteen fields, and every field has a kind that
says how its value is written. Fields are looked up by their names on the wire, which differ
(`Field.ofName?_name`).
-/

namespace TrustRoot

/-- How the value of a field is written. -/
inductive Kind where
  /-- A natural number below 2^64, as a number or as a text of digits. -/
  | integer
  | text
  | octets
  | boolean
  | map
  deriving DecidableEq, Repr

/-- A field of a configuration. -/
inductive Field where
  | isd
  | description
  | version
  | creationTime
  | coreAses
  | rootCas
  | pkiLogs
  | quorumEepki
  | rootRainsKey
  | quorumOwnTrc
  | quorumCas
  | quarantine
  | signatures
  /-- Seconds for which this version stays valid after the next one. -/
  | gracePeriod
  deriving DecidableEq, Repr

namespace Kind

def name : Kind → String
  | .integer => "Integer"
  | .text => "Text"
  | .octets => "BinaryBase64"
  | .boolean => "Boolean"
  | .map => "Map"

def expectation : Kind → String
  | .integer => "integer"
  | .text => "text"
  | .octets => "base64 text"
  | .boolean => "boolean"
  | .map => "map"

end Kind

namespace Field

/-- All fields in the order in which they are read. -/
def all : List Field :=
  [.isd, .description, .version, .creationTime, .coreAses, .rootCas, .pkiLogs, .quorumEepki,
    .rootRainsKey, .quorumOwnTrc, .quorumCas, .quarantine, .signatures, .gracePeriod]

def name : Field → String
  | .isd => "ISDID"
  | .description => "Description"
  | .version => "Version"
  | .creationTime => "CreationTime"
  | .coreAses => "CoreCAs"
  | .rootCas => "RootCAs"
  | .pkiLogs => "PKILogs"
  | .quorumEepki => "QuorumEEPKI"
  | .rootRainsKey => "RootRainsKey"
  | .quorumOwnTrc => "QuorumOwnTRC"
  | .quorumCas => "QuorumCAs"
  | .quarantine => "Quarantine"
  | .signatures => "Signatures"
  | .gracePeriod => "GracePeriod"

def kind : Field → Kind
  | .isd | .version | .creationTime | .quorumEepki | .quorumOwnTrc | .quorumCas
  | .gracePeriod => .integer
  | .description => .text
  | .rootRainsKey => .octets
  | .quarantine => .boolean
  | .coreAses | .rootCas | .pkiLogs | .signatures => .map

def index (field : Field) : Nat := all.idxOf field

def ofName? (name : String) : Option Field := all.find? fun field => field.name == name

theorem mem_all (field : Field) : field ∈ all := by cases field <;> decide

theorem name_injective {first second : Field} (same : first.name = second.name) :
    first = second := by
  have all : ∀ first ∈ all, ∀ second ∈ all, first.name = second.name → first = second := by decide
  exact all first (mem_all first) second (mem_all second) same

/-- Every field is found under its own name. -/
theorem ofName?_name (field : Field) : ofName? field.name = some field := by
  have found : ∀ field ∈ all, ofName? field.name = some field := by decide
  exact found field (mem_all field)

theorem ofName?_eq_some_iff {name : String} {field : Field} :
    ofName? name = some field ↔ field.name = name :=
  ⟨fun found => by simpa using List.find?_some found, fun same => same ▸ ofName?_name field⟩

end Field

end TrustRoot
