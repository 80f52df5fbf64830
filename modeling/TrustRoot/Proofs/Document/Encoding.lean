import TrustRoot.Proofs.Approval.Decision
import TrustRoot.Proofs.Approval.Rotation
import TrustRoot.Proofs.FirstFailure

/-!
# What can be encoded

Fields can be encoded exactly if all of them are fields of a configuration and have the form of
their kind; otherwise the field with the smallest name that cannot be encoded is the reason.  What
is projected from a document always passes.  So whoever needs the signing input of a document has
it, and fails for reasons of its own only: signing if the scheme does, and rotation if it refuses
the candidate.
-/

namespace TrustRoot

/-- The forms in which values of a kind are projected. -/
inductive Kind.Form : Kind → Json → Prop where
  | integer (value : UInt64) : Form .integer (.number (.natural value))
  | text (value : String) : Form .text (.string value)
  | octets (value : String) : Form .octets (.string value)
  | boolean (value : Bool) : Form .boolean (.bool value)
  | map (members : List (String × Json)) : Form .map (.object members)

theorem Kind.accepts_iff {kind : Kind} {value : Json} :
    kind.accepts value = true ↔ kind.Form value := by
  constructor
  · intro accepted
    unfold accepts at accepted
    split at accepted
    · exact .integer _
    · exact .text _
    · exact .octets _
    · exact .boolean _
    · exact .map _
    · cases accepted
  · intro form
    cases form <;> rfl

/-- A field of a configuration with a value in the form of its kind. -/
def Encodable (name : String) (value : Json) : Prop :=
  ∃ field : Field, field.name = name ∧ field.kind.Form value

/-- Why a member is no field with a value in the form of its kind. -/
inductive Unencodable (name : String) (value : Json) : CanonicalReason → Prop where
  | notAField (unknown : ∀ field : Field, field.name ≠ name) : Unencodable name value .notAField
  | unexpected {field : Field} (named : field.name = name) (other : ¬ field.kind.Form value) :
      Unencodable name value (.unexpected field.kind value)

/-! ## One member -/

theorem checkProjected_eq_ok_iff {name : String} {value : Json} :
    checkProjected name value = .ok () ↔ Encodable name value := by
  unfold checkProjected
  cases found : Field.ofName? name with
  | none =>
      constructor
      · rintro ⟨⟩
      · rintro ⟨field, named, -⟩
        rw [Field.ofName?_eq_some_iff.mpr named] at found
        cases found
  | some field =>
      have named := Field.ofName?_eq_some_iff.mp found
      dsimp only
      constructor
      · intro passed
        split at passed
        · rename_i accepted
          exact ⟨field, named, Kind.accepts_iff.mp accepted⟩
        · cases passed
      · rintro ⟨field', named', form⟩
        obtain rfl := Field.name_injective (named'.trans named.symm)
        rw [if_pos (Kind.accepts_iff.mpr form)]

theorem checkProjected_eq_error_iff {name : String} {value : Json} {error : Error} :
    checkProjected name value = .error error ↔
      ∃ reason, error = .canonical name reason ∧ Unencodable name value reason := by
  unfold checkProjected
  cases found : Field.ofName? name with
  | none =>
      have unknown (field : Field) : field.name ≠ name := by
        intro named
        rw [Field.ofName?_eq_some_iff.mpr named] at found
        cases found
      constructor
      · rintro ⟨⟩
        exact ⟨_, rfl, .notAField unknown⟩
      · rintro ⟨_, rfl, _ | ⟨named, -⟩⟩
        · rfl
        · exact absurd named (unknown _)
  | some field =>
      have named := Field.ofName?_eq_some_iff.mp found
      dsimp only
      constructor
      · intro refused
        split at refused
        · cases refused
        · rename_i rejected
          cases refused
          exact ⟨_, rfl, .unexpected named (mt Kind.accepts_iff.mpr rejected)⟩
      · rintro ⟨_, rfl, unknown | ⟨named', other⟩⟩
        · exact absurd named (unknown field)
        · obtain rfl := Field.name_injective (named'.trans named.symm)
          rw [if_neg (mt Kind.accepts_iff.mp other)]

/-! ## All members -/

/-- The member with the smallest name that cannot be encoded, and why it cannot. -/
structure FirstUnencodable (fields : Dict Json) (name : String) (reason : CanonicalReason) :
    Prop where
  cause : ∃ value, fields.get? name = some value ∧ Unencodable name value reason
  before : ∀ other value, fields.get? other = some value →
    Bytes.ofText other < Bytes.ofText name → Encodable other value

/-- Once all members pass, nothing else can fail. -/
theorem encodeFields_eq (fields : Dict Json) :
    encodeFields fields =
      (fields.entries.forM fun member => checkProjected member.1 member.2).map fun _ =>
        Bytes.ofText ((Json.ofDict (fields.mapKeyed canonicalMember)).render .ascii) := by
  unfold encodeFields canonicalFields
  cases fields.entries.forM fun member => checkProjected member.1 member.2 <;> rfl

theorem exists_encodeFields_iff {fields : Dict Json} :
    (∃ octets, encodeFields fields = .ok octets) ↔
      ∀ name value, fields.get? name = some value → Encodable name value := by
  have checked : (∃ octets, encodeFields fields = .ok octets) ↔
      fields.entries.forM (fun member => checkProjected member.1 member.2) = .ok () := by
    rw [encodeFields_eq]
    cases fields.entries.forM fun member => checkProjected member.1 member.2 <;>
      simp [Except.map]
  simp only [checked, forM_eq_ok_iff, checkProjected_eq_ok_iff, Prod.forall, Dict.get?_eq_some_iff]

theorem encodeFields_eq_error_iff_forM {fields : Dict Json} {error : Error} :
    encodeFields fields = .error error ↔
      fields.entries.forM (fun member => checkProjected member.1 member.2) = .error error := by
  rw [encodeFields_eq]
  cases fields.entries.forM fun member => checkProjected member.1 member.2 <;> simp [Except.map]

/-- The first failure along the fields is the one with the smallest name. -/
theorem encodeFields_eq_error_iff {fields : Dict Json} {error : Error} :
    encodeFields fields = .error error ↔
      ∃ name reason, error = .canonical name reason ∧ FirstUnencodable fields name reason := by
  rw [encodeFields_eq_error_iff_forM, Dict.forM_entries_eq_error_iff]
  constructor
  · rintro ⟨name, ⟨value, held, refused⟩, before⟩
    obtain ⟨reason, rfl, fault⟩ := checkProjected_eq_error_iff.mp refused
    refine ⟨name, reason, rfl, ⟨value, held, fault⟩, fun other value' held' below => ?_⟩
    obtain ⟨⟨⟩, passed⟩ := before other value' held' below
    exact checkProjected_eq_ok_iff.mp passed
  · rintro ⟨name, reason, rfl, ⟨value, held, fault⟩, first⟩
    refine ⟨name, ⟨value, held, checkProjected_eq_error_iff.mpr ⟨reason, rfl, fault⟩⟩, ?_⟩
    intro other value' held' below
    exact ⟨(), checkProjected_eq_ok_iff.mpr (first other value' held' below)⟩

/-! ## Documents -/

theorem Document.encodable_project {document : Document} {includeSignatures : Bool} {name : String}
    {value : Json} (held : (document.projectFields includeSignatures).get? name = some value) :
    Encodable name value := by
  obtain ⟨field, -, named, rfl⟩ := get?_projectFields_eq_some_iff.mp held
  exact ⟨field, named, Kind.accepts_iff.mp (accepts_project document field)⟩

/-- Signing does what the scheme does. -/
theorem Document.result_sign {Key : Type} {scheme : SignatureScheme Key} {document : Document}
    {payload : Bytes} (signed : document.signingInput false = .ok payload) (signer : String)
    (key : Key) :
    (document.sign scheme signer key).result =
      ((scheme.sign payload key).mapError Error.signaturePrimitive).map
        (document.addSignature signer) := by
  rw [sign, Trail.result_bind, Trail.result_ofResult, signatureOf, signed]
  change ((scheme.sign payload key).mapError Error.signaturePrimitive >>= _) = _
  cases scheme.sign payload key <;> rfl

/-- Every candidate has a tally. -/
theorem Quorum.exists_tally {Key : Type} (scheme : SignatureScheme Key)
    (candidate reference : Document) :
    ∃ counted, (tally scheme candidate reference).result = .ok counted :=
  ⟨_, tally_eq_ok_iff.mpr ⟨_, Document.signingInput_eq candidate false, rfl⟩⟩

namespace Rotation

variable {Key : Type} {scheme : SignatureScheme Key} {previous candidate : Document} {error : Error}

theorem isRejection_of_checkTransition
    (refused : checkTransition previous candidate = .error error) : error.isRejection = true := by
  unfold checkTransition at refused
  repeat' split at refused
  all_goals cases refused <;> rfl

theorem isRejection_of_quorum
    (refused : (Quorum.verify scheme candidate previous).result = .error error) :
    error.isRejection = true := by
  obtain ⟨counted, tallied⟩ := Quorum.exists_tally scheme candidate previous
  rw [Quorum.result_verify tallied] at refused
  split at refused <;> cases refused
  rfl

/-- Whatever is not accepted is rejected. -/
theorem isRejection_of_verify
    (refused : (verify scheme previous candidate).result = .error error) :
    error.isRejection = true := by
  unfold verify at refused
  cases transition : checkTransition previous candidate with
  | error reason =>
      rw [transition] at refused
      cases refused
      exact isRejection_of_checkTransition transition
  | ok passed =>
      rw [transition] at refused
      rcases Trail.result_bind_eq_error_iff.mp refused with quorum | ⟨counted, -, rest⟩
      · exact isRejection_of_quorum quorum
      · cases rest

end Rotation

/-- Fields can be encoded exactly if each of them is a field of a configuration in the form of its
kind, and the smallest name among the others is the reason if not.  The fields of a document always
can, with signatures or without.  So a document has its signing input, its fingerprint and its
tallies, signing it does what the scheme does, and rotation to it is accepted or rejected. -/
theorem encoding_never_fails :
    (∀ fields : Dict Json,
      ((∃ octets, encodeFields fields = .ok octets) ↔
        ∀ name value, fields.get? name = some value → Encodable name value) ∧
      ∀ error, encodeFields fields = .error error ↔
        ∃ name reason, error = .canonical name reason ∧ FirstUnencodable fields name reason) ∧
    ∀ document : Document,
      (∀ includeSignatures name value,
        (document.projectFields includeSignatures).get? name = some value →
        Encodable name value) ∧
      (∀ includeSignatures, ∃ octets, document.signingInput includeSignatures = .ok octets) ∧
      (∃ digest, document.fingerprint = .ok digest) ∧
      ∀ (Key : Type) (scheme : SignatureScheme Key),
        (∀ reference, ∃ counted, (Quorum.tally scheme document reference).result = .ok counted) ∧
        (∃ payload, document.signingInput false = .ok payload ∧ ∀ signer key,
          (document.sign scheme signer key).result =
            ((scheme.sign payload key).mapError Error.signaturePrimitive).map
              (document.addSignature signer)) ∧
        ∀ previous error, (Rotation.verify scheme previous document).result = .error error →
          error.isRejection = true := by
  refine ⟨fun fields => ⟨exists_encodeFields_iff, fun _ => encodeFields_eq_error_iff⟩,
    fun document => ?_⟩
  have encoded (includeSignatures : Bool) := Document.signingInput_eq document includeSignatures
  refine ⟨fun _ _ _ => Document.encodable_project, fun _ => ⟨_, encoded _⟩, ?_, ?_⟩
  · rw [Document.fingerprint, encoded]
    exact ⟨_, rfl⟩
  · intro Key scheme
    refine ⟨Quorum.exists_tally scheme document, ⟨_, encoded false, ?_⟩,
      fun _ _ => Rotation.isRejection_of_verify⟩
    intro signer key
    exact Document.result_sign (encoded false) signer key

end TrustRoot
