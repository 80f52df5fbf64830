import TrustRoot.Proofs.Document.Coverage
import TrustRoot.Proofs.Document.RoundTrip

/-!
# Two ways to a document

A document can be built from values, or read from an object that spells them.  Both ways obey the
same rules: the object of any values is read as what the values are built into, and refused for the
same reason where they break a rule.
-/

namespace TrustRoot

/-- The object that spells values and a creation time, field by field. -/
def Values.wire (values : Values) (creationTime : UInt64) : Dict Json :=
  .ofList [
    ("ISDID", .natural values.isd.toUInt64),
    ("Description", .string values.description),
    ("Version", .natural values.version),
    ("CreationTime", .natural creationTime),
    ("CoreCAs", .ofDict (values.coreAses.map CoreKeys.toJson)),
    ("RootCAs", .ofDict values.rootCas),
    ("PKILogs", .ofDict values.pkiLogs),
    ("QuorumEEPKI", .natural values.quorumEepki.toUInt64),
    ("RootRainsKey", .string (Base64.encodeText values.rootRainsKey)),
    ("QuorumOwnTRC", .natural values.quorumOwnTrc.toUInt64),
    ("QuorumCAs", .natural values.quorumCas.toUInt64),
    ("Quarantine", .bool values.quarantine),
    ("Signatures", .ofDict (values.signatures.map fun octets =>
      .string (Base64.encodeText octets))),
    ("GracePeriod", .natural values.gracePeriod)]

namespace Document

/-- The values of a document are spelled by its projection. -/
theorem projectFields_ofValues (values : Values) (creationTime : UInt64) :
    projectFields { values with creationTime } true = values.wire creationTime :=
  rfl

/-- The object of values is read as what the values are built into. -/
theorem ofWire_wire (values : Values) (creationTime : UInt64) :
    ofWire (values.wire creationTime) = ofValues values creationTime := by
  rw [← projectFields_ofValues, ofWire_projectFields_eq_check]
  rfl

/-- A record is a document, or malformed at one of its fields. -/
theorem check_eq_ok_or_malformed (document : Document) :
    document.check = .ok document ∨
      ∃ (field : Field) (reason : MalformedReason),
        document.check = .error (.malformed field.name reason) := by
  unfold check
  split
  · exact .inr ⟨.isd, _, rfl⟩
  split
  · exact .inr ⟨.version, _, rfl⟩
  split
  · exact .inr ⟨.quorumOwnTrc, _, rfl⟩
  split
  · exact .inr ⟨.quorumOwnTrc, _, rfl⟩
  split
  · exact .inr ⟨.quorumCas, _, rfl⟩
  · exact .inl rfl

/-! ## Documents of any origin -/

/-- A document that was built or read in any way there is, and perhaps signed. -/
inductive Constructed : Document → Prop where
  | ofValues {values : Values} {creationTime : UInt64} {document : Document}
      (built : Document.ofValues values creationTime = .ok document) : Constructed document
  | ofWire {object : Dict Json} {document : Document}
      (read : Document.ofWire object = .ok document) : Constructed document
  | ofRaw {codec : PayloadCodec} {compressed : Bool} {raw : Bytes} {document : Document}
      (read : (Document.ofRaw codec compressed raw).result = .ok document) : Constructed document
  | sign {Key : Type} {scheme : SignatureScheme Key} {signer : String} {key : Key}
      {document signed : Document} (constructed : Constructed document)
      (done : (document.sign scheme signer key).result = .ok signed) : Constructed signed

theorem exists_ofWire_of_ofText {text : Bytes} {document : Document}
    (read : ofText text = .ok document) : ∃ object, ofWire object = .ok document := by
  unfold ofText at read
  split at read
  · cases read
  · exact ⟨_, read⟩
  · cases read

theorem valid_of_ofWire {object : Dict Json} {document : Document}
    (read : ofWire object = .ok document) : document.Valid :=
  (ofWire_eq_ok_iff.mp read).2

theorem Constructed.valid {document : Document} (constructed : document.Constructed) :
    document.Valid := by
  induction constructed with
  | ofValues built =>
      obtain ⟨rfl, valid⟩ := check_eq_ok_iff.mp built
      exact valid
  | ofWire read => exact valid_of_ofWire read
  | ofRaw read =>
      obtain ⟨text, -, read⟩ := ofRaw_eq_ok_iff.mp read
      obtain ⟨object, read⟩ := exists_ofWire_of_ofText read
      exact valid_of_ofWire read
  | sign constructed done ih =>
      obtain ⟨signature, -, rfl⟩ := sign_eq_ok_iff.mp done
      exact ih.of_toBody rfl

/-- Building from values and reading the object that spells them give the same document, or the
same reason why there is none.  So the projection of a document of any origin is read as that
document. -/
theorem constructions_agree :
    (∀ (values : Values) (creationTime : UInt64),
      (∃ document, ofValues values creationTime = .ok document ∧
        ofWire (values.wire creationTime) = .ok document) ∨
      ∃ (field : Field) (reason : MalformedReason),
        ofValues values creationTime = .error (.malformed field.name reason) ∧
        ofWire (values.wire creationTime) = .error (.malformed field.name reason)) ∧
    ∀ document : Document, document.Constructed →
      ofWire (document.projectFields true) = .ok document := by
  constructor
  · intro values creationTime
    rw [ofWire_wire]
    rcases check_eq_ok_or_malformed { values with creationTime } with
      built | ⟨field, reason, refused⟩
    · exact .inl ⟨_, built, built⟩
    · exact .inr ⟨field, reason, refused, refused⟩
  · intro document constructed
    exact ofWire_projectFields constructed.valid

/-- The sample after its core system and a stranger have signed it. -/
def signedSample : Document :=
  (sample.addSignature "1-1" [0, 255]).addSignature "2-ff00:0:1" []

/-- In the scheme of the sample a key is its own signature. -/
theorem constructed_signedSample : signedSample.Constructed := by
  let scheme : SignatureScheme Bytes := ⟨fun _ key => .ok key, fun _ _ _ => .ok true⟩
  have signed (document : Document) (signer : String) (key : Bytes) :
      (document.sign scheme signer key).result = .ok (document.addSignature signer key) := by
    refine sign_eq_ok_iff.mpr ⟨key, ?_, rfl⟩
    rw [signatureOf, signingInput_eq]
    rfl
  have built : Document.ofValues sampleValues 18446744073709551615 = .ok sample :=
    check_eq_ok_iff.mpr ⟨rfl, reachable_sample.sound.valid⟩
  exact .sign (.sign (.ofValues built) (signed _ "1-1" [0, 255])) (signed _ "2-ff00:0:1" [])

theorem constructions_agree_signedSample :
    signedSample.Constructed ∧ ofWire (signedSample.projectFields true) = .ok signedSample :=
  ⟨constructed_signedSample, constructions_agree.2 signedSample constructed_signedSample⟩

end Document

end TrustRoot
