import TrustRoot.Document.Signing
import TrustRoot.Proofs.Document.Reading
import TrustRoot.Proofs.Json.Ordered

/-!
# Documents that can come up

A document comes from the values of an author or from an input, and then gathers signatures.  Every
such document obeys the rules, and its free maps are in order at every level.
-/

namespace TrustRoot.Document

/-- A document from an author or an input, perhaps signed.  The maps of an author are dictionaries
at every level, and so have their members in order. -/
inductive Reachable : Document → Prop where
  | ofValues {values : Values} {creationTime : UInt64} {document : Document}
      (rootCas : (Json.ofDict values.rootCas).Ordered)
      (pkiLogs : (Json.ofDict values.pkiLogs).Ordered)
      (built : Document.ofValues values creationTime = .ok document) : Reachable document
  | ofRaw {codec : PayloadCodec} {compressed : Bool} {raw : Bytes} {document : Document}
      (read : (Document.ofRaw codec compressed raw).result = .ok document) : Reachable document
  | sign {Key : Type} {scheme : SignatureScheme Key} {signer : String} {key : Key}
      {document signed : Document} (reachable : Reachable document)
      (done : (document.sign scheme signer key).result = .ok signed) : Reachable signed

/-- What holds of every document that can come up. -/
structure Sound (document : Document) : Prop where
  valid : document.Valid
  rootCas : (Json.ofDict document.rootCas).Ordered
  pkiLogs : (Json.ofDict document.pkiLogs).Ordered

/-- The rules are about the body alone. -/
theorem Valid.of_toBody {document other : Document} (valid : document.Valid)
    (same : other.toBody = document.toBody) : other.Valid := by
  obtain ⟨body, signatures⟩ := document
  obtain ⟨body', signatures'⟩ := other
  obtain rfl : body' = body := same
  exact ⟨valid.isd_ne_zero, valid.version_ne_zero, valid.quorum_ne_zero, valid.quorum_le_core,
    valid.quorumCas_ne_zero⟩

theorem Sound.of_toBody {document other : Document} (sound : document.Sound)
    (same : other.toBody = document.toBody) : other.Sound := by
  refine ⟨sound.valid.of_toBody same, ?_, ?_⟩
  · rw [same]
    exact sound.rootCas
  · rw [same]
    exact sound.pkiLogs

theorem sound_of_ofValues {values : Values} {creationTime : UInt64} {document : Document}
    (rootCas : (Json.ofDict values.rootCas).Ordered)
    (pkiLogs : (Json.ofDict values.pkiLogs).Ordered)
    (built : Document.ofValues values creationTime = .ok document) : document.Sound := by
  obtain ⟨rfl, valid⟩ := check_eq_ok_iff.mp built
  exact ⟨valid, rootCas, pkiLogs⟩

theorem ordered_of_get? {object : Dict Json} (ordered : (Json.ofDict object).Ordered)
    {name : String} {found : Json} (held : object.get? name = some found) : found.Ordered :=
  Json.membersOrdered_iff.mp ordered.2 (name, found) (Dict.get?_eq_some_iff.mp held)

/-- A map is read from an object as it is, if the object is in order. -/
theorem eq_ofDict_of_read_map {found : Json} {members : Dict Json} (ordered : found.Ordered)
    (read : Kind.map.read found = .ok members) : found = .ofDict members := by
  cases found with
  | object held =>
      cases read
      rw [Json.ofDict_ofList ordered.1]
  | _ => cases read

/-- The free maps of a document are members of the object that it is read from. -/
theorem get?_maps_of_ofWire {object : Dict Json} {document : Document}
    (ordered : (Json.ofDict object).Ordered) (read : ofWire object = .ok document) :
    object.get? Field.rootCas.name = some (.ofDict document.rootCas) ∧
      object.get? Field.pkiLogs.name = some (.ofDict document.pkiLogs) := by
  obtain ⟨⟨-, values, fields, assembles⟩, -⟩ := ofWire_eq_ok_iff.mp read
  obtain ⟨rootCas, rootCasHeld, rootCasRead⟩ := readField_eq_ok_iff.mp (fields .rootCas)
  obtain ⟨pkiLogs, pkiLogsHeld, pkiLogsRead⟩ := readField_eq_ok_iff.mp (fields .pkiLogs)
  rw [← assembles.rootCas, ← assembles.pkiLogs,
    ← eq_ofDict_of_read_map (ordered_of_get? ordered rootCasHeld) rootCasRead,
    ← eq_ofDict_of_read_map (ordered_of_get? ordered pkiLogsHeld) pkiLogsRead]
  exact ⟨rootCasHeld, pkiLogsHeld⟩

theorem sound_of_ofWire {object : Dict Json} {document : Document}
    (ordered : (Json.ofDict object).Ordered) (read : ofWire object = .ok document) :
    document.Sound := by
  obtain ⟨rootCas, pkiLogs⟩ := get?_maps_of_ofWire ordered read
  exact ⟨(ofWire_eq_ok_iff.mp read).2, ordered_of_get? ordered rootCas,
    ordered_of_get? ordered pkiLogs⟩

/-- A document is read from an object whose members are in order. -/
theorem exists_object_of_ofText {text : Bytes} {document : Document}
    (read : ofText text = .ok document) :
    ∃ object, Json.parse text = .ok (.ofDict object) ∧ (Json.ofDict object).Ordered ∧
      ofWire object = .ok document := by
  unfold ofText at read
  split at read
  · cases read
  · rename_i members parsed
    have ordered := Json.ordered_of_parse parsed
    rw [← Json.ofDict_ofList ordered.1] at parsed ordered
    exact ⟨.ofList members, parsed, ordered, read⟩
  · cases read

theorem sound_of_ofText {text : Bytes} {document : Document} (read : ofText text = .ok document) :
    document.Sound := by
  obtain ⟨object, -, ordered, read⟩ := exists_object_of_ofText read
  exact sound_of_ofWire ordered read

/-- Reading is opening the envelope and reading the text in it. -/
theorem result_ofRaw_eq_bind (codec : PayloadCodec) (compressed : Bool) (raw : Bytes) :
    (ofRaw codec compressed raw).result = unwrap codec compressed raw >>= ofText := by
  rw [ofRaw, Trail.result_bind, Trail.result_ofResult]
  refine congrArg _ (funext fun text => ?_)
  rw [Trail.result_bind, Trail.result_ofResult]
  cases ofText text <;> rfl

theorem ofRaw_eq_ok_iff {codec : PayloadCodec} {compressed : Bool} {raw : Bytes}
    {document : Document} :
    (ofRaw codec compressed raw).result = .ok document ↔
      ∃ text, unwrap codec compressed raw = .ok text ∧ ofText text = .ok document := by
  rw [result_ofRaw_eq_bind]
  exact bind_eq_ok_iff

theorem sign_eq_ok_iff {Key : Type} {scheme : SignatureScheme Key} {signer : String} {key : Key}
    {document signed : Document} :
    (document.sign scheme signer key).result = .ok signed ↔
      ∃ signature, document.signatureOf scheme key = .ok signature ∧
        document.addSignature signer signature = signed := by
  simp only [sign, Trail.result_bind_eq_ok_iff, Trail.result_ofResult, Trail.result_pure,
    Except.ok.injEq]
  constructor
  · rintro ⟨signature, made, -, -, rfl⟩
    exact ⟨signature, made, rfl⟩
  · rintro ⟨signature, made, rfl⟩
    exact ⟨signature, made, (), rfl, rfl⟩

theorem Reachable.sound {document : Document} (reachable : document.Reachable) :
    document.Sound := by
  induction reachable with
  | ofValues rootCas pkiLogs built => exact sound_of_ofValues rootCas pkiLogs built
  | ofRaw read =>
      obtain ⟨text, -, read⟩ := ofRaw_eq_ok_iff.mp read
      exact sound_of_ofText read
  | sign reachable done ih =>
      -- Signing leaves the body as it is, and the maps with it.
      obtain ⟨signature, -, rfl⟩ := sign_eq_ok_iff.mp done
      exact ih.of_toBody rfl

end TrustRoot.Document
