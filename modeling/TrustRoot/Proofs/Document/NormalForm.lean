import TrustRoot.Proofs.Document.Acceptance
import TrustRoot.Proofs.Document.RoundTrip

/-!
# Normal form

A document keeps what an object says and forgets how it was written.  Only two things can be written
in more than one way: numbers, also as texts of digits, and the records of core systems.  So the
document of an object is projected to that very object, with numbers for texts of digits and with
every record as its keys are written (`projectFields_of_ofWire`).
-/

namespace TrustRoot

/-- A number in place of a text of digits. -/
def Json.asNumber : Json → Json
  | .string digits => .natural (UInt64.ofNat (Nat.ofDigitChars 10 digits.toList 0))
  | found => found

/-- The record of a core system as its keys are written. -/
def CoreKeys.restate (record : Json) : Json :=
  match ofJson record with
  | .ok keys => keys.toJson
  | .error _ => record

/-- The value of a field as a document writes it. -/
def Field.restate : Field → Json → Json
  | .coreAses, .object records =>
    .object (records.map fun entry => (entry.1, CoreKeys.restate entry.2))
  | field, found => if field.kind = .integer then found.asNumber else found

def restateMember (name : String) (found : Json) : Json :=
  match Field.ofName? name with
  | some field => field.restate found
  | none => found

namespace Document

/-- The object with the same members, each as a document writes it. -/
def normalForm (object : Dict Json) : Dict Json := object.mapKeyed restateMember

/-! ## One field -/

theorem natural_eq_asNumber {found : Json} {value : UInt64}
    (writes : found.WritesNumber value.toNat) : Json.natural value = found.asNumber := by
  generalize number : value.toNat = written at writes
  cases writes with
  | number held => rw [UInt64.toNat_inj.mp number]; rfl
  | digits => rw [Json.asNumber, ← number, UInt64.ofNat_toNat]

/-- Records are restated by reading them and writing their keys. -/
theorem map_toJson_of_traverse {records : Dict Json} {coreAses : Dict CoreKeys}
    (read : records.traverse readCoreKeys = .ok coreAses) :
    coreAses.map CoreKeys.toJson = records.map CoreKeys.restate := by
  ext1 identifier
  have step := Dict.get?_traverse read identifier
  rw [Dict.get?_map, Dict.get?_map]
  generalize records.get? identifier = record, coreAses.get? identifier = keys at step
  cases step with
  | none => rfl
  | some decoded =>
      rw [Option.map_some, Option.map_some, CoreKeys.restate, readCoreKeys_eq_ok_iff.mp decoded]

/-- Base64 texts of signatures are written again as they were. -/
theorem map_encodeText_of_traverse {entries : Dict Json} {signatures : Dict Bytes}
    (read : entries.traverse readSignature = .ok signatures) :
    (signatures.map fun octets => Json.string (Base64.encodeText octets)) = entries := by
  ext1 signer
  have step := Dict.get?_traverse read signer
  rw [Dict.get?_map]
  generalize entries.get? signer = found, signatures.get? signer = octets at step
  cases step with
  | none => rfl
  | some decoded => exact congrArg some (readSignature_eq_ok_iff.mp decoded).symm

/-- A field is projected to what it was read from, restated. -/
theorem project_eq_restate {values : (field : Field) → field.kind.Value} {document : Document}
    (assembles : Assembles values document) {field : Field} {found : Json}
    (ordered : found.Ordered) (read : field.kind.read found = .ok (values field)) :
    document.project field = field.restate found := by
  have denotes := Kind.read_eq_ok_iff.mp read
  cases field with
  | isd =>
      rw [project, toUInt64_of_narrow16 assembles.isd]
      exact natural_eq_asNumber denotes
  | quorumEepki =>
      rw [project, toUInt64_of_narrow32 assembles.quorumEepki]
      exact natural_eq_asNumber denotes
  | quorumOwnTrc =>
      rw [project, toUInt64_of_narrow32 assembles.quorumOwnTrc]
      exact natural_eq_asNumber denotes
  | quorumCas =>
      rw [project, toUInt64_of_narrow32 assembles.quorumCas]
      exact natural_eq_asNumber denotes
  | version =>
      rw [project, ← assembles.version]
      exact natural_eq_asNumber denotes
  | creationTime =>
      rw [project, ← assembles.creationTime]
      exact natural_eq_asNumber denotes
  | gracePeriod =>
      rw [project, ← assembles.gracePeriod]
      exact natural_eq_asNumber denotes
  | description =>
      rw [project, ← assembles.description]
      exact denotes.symm
  | rootRainsKey =>
      rw [project, ← assembles.rootRainsKey]
      exact denotes.symm
  | quarantine =>
      rw [project, ← assembles.quarantine]
      exact denotes.symm
  | rootCas =>
      rw [project, ← assembles.rootCas]
      exact (eq_ofDict_of_read_map ordered read).symm
  | pkiLogs =>
      rw [project, ← assembles.pkiLogs]
      exact (eq_ofDict_of_read_map ordered read).symm
  | coreAses =>
      rw [project, coreAsesJson, map_toJson_of_traverse assembles.coreAses,
        eq_ofDict_of_read_map ordered read]
      rfl
  | signatures =>
      rw [project, signaturesJson, map_encodeText_of_traverse assembles.signatures]
      exact (eq_ofDict_of_read_map ordered read).symm

/-! ## All fields -/

/-- Signatures are the only member that can be left out. -/
theorem projectFields_false (document : Document) :
    document.projectFields false =
      (document.projectFields true).erase Field.signatures.name := by
  ext name value
  rw [Dict.get?_erase]
  split
  · rename_i isSignatures
    simp only [get?_projectFields_eq_some_iff, mem_projectedFields, reduceCtorEq, iff_false]
    rintro ⟨field, projected, named, -⟩
    rcases projected with ⟨⟨⟩⟩ | other
    exact other (Field.name_injective (named.trans isSignatures))
  · rename_i other
    simp only [get?_projectFields_eq_some_iff, mem_projectedFields]
    constructor
    · rintro ⟨field, -, named, held⟩
      exact ⟨field, .inl trivial, named, held⟩
    · rintro ⟨field, -, named, held⟩
      refine ⟨field, .inr ?_, named, held⟩
      rintro rfl
      exact other named.symm

variable {object : Dict Json} {document : Document}

theorem projectFields_eq_normalForm (ordered : (Json.ofDict object).Ordered)
    (read : ofWire object = .ok document) : document.projectFields true = normalForm object := by
  obtain ⟨⟨names, values, fields, assembles⟩, -⟩ := ofWire_eq_ok_iff.mp read
  ext1 name
  rw [normalForm, Dict.get?_mapKeyed]
  cases held : object.get? name with
  | none =>
      apply Option.eq_none_iff_forall_ne_some.mpr
      intro value projected
      -- Every field is a member of the object.
      obtain ⟨field, -, rfl, -⟩ := get?_projectFields_eq_some_iff.mp projected
      obtain ⟨found, present, -⟩ := readField_eq_ok_iff.mp (fields field)
      cases held.symm.trans present
  | some found =>
      have listed : name ∈ object.keys := Dict.mem_keys_iff.mpr ⟨found, held⟩
      obtain ⟨field, rfl⟩ := checkNames_eq_ok_iff.mp names name listed
      obtain ⟨_, present, fieldRead⟩ := readField_eq_ok_iff.mp (fields field)
      obtain rfl := Option.some.inj (held.symm.trans present)
      rw [get?_projectFields (mem_projectedFields.mpr (.inl rfl)), Option.map_some, restateMember,
        Field.ofName?_name]
      exact congrArg some (project_eq_restate assembles (ordered_of_get? ordered held) fieldRead)

/-! ## Kinds of fields -/

theorem restate_of_kind_ne {field : Field} (noNumber : field.kind ≠ .integer)
    (noRecords : field ≠ .coreAses) (found : Json) : field.restate found = found := by
  cases field with
  | description | rootCas | pkiLogs | rootRainsKey | quarantine | signatures => rfl
  | coreAses => exact absurd rfl noRecords
  | _ => exact absurd rfl noNumber

theorem restate_of_kind_eq {field : Field} (isNumber : field.kind = .integer) (found : Json) :
    field.restate found = found.asNumber := by
  cases field with
  | description | rootCas | pkiLogs | rootRainsKey | quarantine | signatures | coreAses =>
      cases isNumber
  | _ => rfl

theorem get?_normalForm (object : Dict Json) (field : Field) :
    (normalForm object).get? field.name = (object.get? field.name).map field.restate := by
  have restated : restateMember field.name = field.restate := by
    funext found
    rw [restateMember, Field.ofName?_name]
  rw [normalForm, Dict.get?_mapKeyed, restated]

theorem keys_normalForm (object : Dict Json) : (normalForm object).keys = object.keys :=
  List.map_map

theorem exists_writesNumber_of_read {kind : Kind} {found : Json} {value : kind.Value}
    (isNumber : kind = .integer) (read : kind.read found = .ok value) :
    ∃ number : UInt64, found.WritesNumber number.toNat := by
  subst isNumber
  exact ⟨value, Kind.read_integer_eq_ok_iff.mp read⟩

/-- The text of a number, with zeros at the front or without, becomes the number. -/
theorem get?_normalForm_of_integer {field : Field} (isNumber : field.kind = .integer)
    (read : ofWire object = .ok document) :
    ∃ found, ∃ number : UInt64, object.get? field.name = some found ∧
      found.WritesNumber number.toNat ∧
      (normalForm object).get? field.name = some (.natural number) := by
  obtain ⟨⟨-, values, fields, -⟩, -⟩ := ofWire_eq_ok_iff.mp read
  obtain ⟨found, held, fieldRead⟩ := readField_eq_ok_iff.mp (fields field)
  obtain ⟨number, writes⟩ := exists_writesNumber_of_read isNumber fieldRead
  refine ⟨found, number, held, writes, ?_⟩
  rw [get?_normalForm, held, Option.map_some, restate_of_kind_eq isNumber]
  exact congrArg some (natural_eq_asNumber writes).symm

/-- The record of a core system becomes the record that its keys are written as. -/
theorem get?_projectFields_coreAses (ordered : (Json.ofDict object).Ordered)
    (read : ofWire object = .ok document) :
    ∃ records : Dict Json, object.get? Field.coreAses.name = some (.ofDict records) ∧
      (document.projectFields true).get? Field.coreAses.name =
        some (.ofDict (document.coreAses.map CoreKeys.toJson)) ∧
      ∀ identifier, Option.Rel (fun record keys => CoreKeys.ofJson record = .ok keys)
        (records.get? identifier) (document.coreAses.get? identifier) := by
  obtain ⟨⟨-, values, fields, assembles⟩, -⟩ := ofWire_eq_ok_iff.mp read
  obtain ⟨found, held, fieldRead⟩ := readField_eq_ok_iff.mp (fields .coreAses)
  refine ⟨values .coreAses, ?_, get?_projectFields (mem_projectedFields.mpr (.inl rfl)),
    (assembles_iff_holds.mp assembles).coreAses⟩
  rw [held, eq_ofDict_of_read_map (ordered_of_get? ordered held) fieldRead]

/-- The document of an object is projected to the object in its normal form.  Numbers are written
as numbers and records of core systems as their keys are written; all other values are those of the
object, and no member is added or lost. -/
theorem projectFields_of_ofWire (ordered : (Json.ofDict object).Ordered)
    (read : ofWire object = .ok document) :
    document.projectFields true = normalForm object ∧
    document.projectFields false = (normalForm object).erase Field.signatures.name ∧
    (document.projectFields true).keys = object.keys ∧
    (∀ field : Field, field.kind ≠ .integer → field ≠ .coreAses →
      (document.projectFields true).get? field.name = object.get? field.name) ∧
    (∀ field : Field, field.kind = .integer →
      ∃ found, ∃ number : UInt64, object.get? field.name = some found ∧
        found.WritesNumber number.toNat ∧
        (document.projectFields true).get? field.name = some (.natural number)) ∧
    ∃ records : Dict Json, object.get? Field.coreAses.name = some (.ofDict records) ∧
      (document.projectFields true).get? Field.coreAses.name =
        some (.ofDict (document.coreAses.map CoreKeys.toJson)) ∧
      ∀ identifier, Option.Rel (fun record keys => CoreKeys.ofJson record = .ok keys)
        (records.get? identifier) (document.coreAses.get? identifier) := by
  have normal := projectFields_eq_normalForm ordered read
  refine ⟨normal, ?_, ?_, ?_, ?_, get?_projectFields_coreAses ordered read⟩
  · rw [projectFields_false, normal]
  · rw [normal, keys_normalForm]
  · intro field noNumber noRecords
    have unchanged : field.restate = id := funext (restate_of_kind_ne noNumber noRecords)
    rw [normal, get?_normalForm, unchanged, Option.map_id, id]
  · intro field isNumber
    rw [normal]
    exact get?_normalForm_of_integer isNumber read

/-- The sample with its version as a text of digits, and with a list of four values as its record of
a core system. -/
def restatedSample : Dict Json :=
  let record : Json := .array [.string "ed25519", .string "AQID", .string "ed25519", .string "BA"]
  ((sample.projectFields true).insert Field.version.name (.string "007")).insert
    Field.coreAses.name (.object [("1-1", record)])

theorem projectFields_of_ofWire_sample : (Json.ofDict restatedSample).Ordered ∧
    ofWire restatedSample = .ok sample ∧ sample.projectFields true = normalForm restatedSample := by
  have single (entry : String × Json) : KeysAscend [entry] := List.pairwise_singleton _ entry
  have ordered : (Json.ofDict restatedSample).Ordered :=
    ⟨Dict.ascending _, ⟨single _, ⟨trivial, trivial, trivial, trivial, trivial⟩, trivial⟩,
      trivial, trivial, trivial, trivial, ⟨single _, ⟨.nil, trivial⟩, trivial⟩, trivial, trivial,
      trivial, trivial, ⟨single _, ⟨trivial, trivial, trivial, trivial⟩, trivial⟩, trivial,
      ⟨single _, trivial, trivial⟩, trivial, trivial⟩
  have read : ofWire restatedSample = .ok sample := rfl
  exact ⟨ordered, read, (projectFields_of_ofWire ordered read).1⟩

end Document

end TrustRoot
