import TrustRoot.Proofs.Document.Coverage
import TrustRoot.Proofs.Json.Compact
import TrustRoot.Proofs.Text.Order

/-!
# Canonical texts

The signing input of a document is a JSON text in ASCII without blanks between tokens and with
ascending names in every object.  Parsing it gives back the object that was written, which is
described here field by field, apart from how it is computed.
-/

namespace TrustRoot.Document

/-- The textual entries of a dictionary, each as the Base64 form of its text. -/
def textualEntries (entries : Dict Json) : Dict Json :=
  entries.filterMap fun _ value =>
    match value with
    | .string text => some (.string (Base64.encodeText (Bytes.ofText text)))
    | _ => none

/-- The value of a field in the object that is signed. -/
def signedValue (document : Document) : Field → Json
  | .description => .string (Base64.encodeText (Bytes.ofText document.description))
  | .coreAses => .object []
  | .rootCas => .ofDict (textualEntries document.rootCas)
  | .pkiLogs => .ofDict (textualEntries document.pkiLogs)
  | field => document.project field

/-- The object that is signed. -/
def signedObject (document : Document) (includeSignatures : Bool) : Dict Json :=
  .ofList ((projectedFields includeSignatures).map fun field =>
    (field.name, document.signedValue field))

theorem ofDict_textualEntries (entries : Dict Json) :
    Json.ofDict (textualEntries entries) =
      .object (entries.entries.filterMap textualMember?) := by
  apply congrArg Json.object
  apply List.filterMap_congr
  rintro ⟨key, value⟩ -
  cases value <;> rfl

theorem covered_eq_signedValue (document : Document) (field : Field) :
    document.covered field = document.signedValue field := by
  cases field with
  | coreAses => exact congrArg Json.object (coreKeys_not_textual document.coreAses)
  | rootCas => exact (ofDict_textualEntries document.rootCas).symm
  | pkiLogs => exact (ofDict_textualEntries document.pkiLogs).symm
  | _ => rfl

theorem coveredFields_eq (document : Document) (includeSignatures : Bool) :
    document.coveredFields includeSignatures = document.signedObject includeSignatures := by
  ext name value
  rw [get?_coveredFields_eq_some_iff, signedObject, get?_ofList_fields_eq_some_iff]
  simp only [covered_eq_signedValue]

/-- Names ascend strictly, compared by the octets of their UTF-8 form. -/
def OctetsAscend (names : List String) : Prop :=
  names.Pairwise fun first second => Bytes.ofText first < Bytes.ofText second

/-- The signing input of a document, with signatures or without, is ASCII, has no blank outside
strings, lists the names of every object in ascending order, and is parsed as the object that is
signed. -/
theorem signingInput_canonical (document : Document) (includeSignatures : Bool) :
    ∃ octets, document.signingInput includeSignatures = .ok octets ∧
      (∀ octet ∈ octets, octet.toNat < 128) ∧
      (∀ octet ∈ Json.outsideStrings octets, 0x20 < octet) ∧
      (∃ tree, Json.Writes Eq Json.depthLimit octets tree ∧ tree.EveryObject OctetsAscend) ∧
      Json.parse octets = .ok (.ofDict (document.signedObject includeSignatures)) := by
  have restorable := (restorable_coveredFields document includeSignatures).mono
    (by decide : 2 ≤ Json.depthLimit)
  rw [coveredFields_eq] at restorable
  refine ⟨_, signingInput_eq document includeSignatures, ?_⟩
  rw [coveredFields_eq]
  refine ⟨Json.ascii_render restorable.integers, Json.visible_render restorable.integers,
    ⟨Json.tree (.ofDict (document.signedObject includeSignatures)), ?_, ?_⟩,
    Json.parse_render .ascii restorable⟩
  · rw [Json.render_eq, Bytes.ofText_ofList]
    exact Json.writes_chars .ascii 0 Json.depthLimit _ restorable.integers restorable.shallow
  · apply Json.everyObject_tree _ _ restorable.ordered
    intro names ascending
    exact ascending.imp fun below => Bytes.ofText_lt_iff.mpr below

end TrustRoot.Document
