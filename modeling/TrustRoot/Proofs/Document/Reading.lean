import TrustRoot.Document.Reading
import TrustRoot.Proofs.Audit
import TrustRoot.Proofs.Document.Projection
import TrustRoot.Proofs.Text.Base64

/-!
# Reading what was projected

Every field reads back the value that was projected from it, and so do the records of core systems
and the signatures.  The object projected from a valid document is therefore read as that document
(`ofWire_projectFields`).
-/

namespace TrustRoot

namespace CoreKeys

theorem readKey_encodeText (key : Bytes) :
    readKey (.string (Base64.encodeText key)) = .ok key := by
  rw [readKey, Base64.decode_encodeText]
  rfl

/-- The record that was written is read back. -/
theorem ofJson_toJson (keys : CoreKeys) : ofJson keys.toJson = .ok keys := by
  let online := Json.string (Base64.encodeText keys.onlineKey)
  let offline := Json.string (Base64.encodeText keys.offlineKey)
  -- The members are checked by ascending name, and then read in the order of a list.
  change (do
    let _ ← (do
      (readKey offline).map fun _ => ()
      (readText (.string keys.offlineAlgorithm)).map fun _ => ()
      (readKey online).map fun _ => ()
      (readText (.string keys.onlineAlgorithm)).map fun _ => ()
      return ())
    let onlineAlgorithm ← readText (.string keys.onlineAlgorithm)
    let onlineKey ← readKey online
    let offlineAlgorithm ← readText (.string keys.offlineAlgorithm)
    let offlineKey ← readKey offline
    return (⟨onlineAlgorithm, onlineKey, offlineAlgorithm, offlineKey⟩ : CoreKeys)) = .ok keys
  rw [readKey_encodeText, readKey_encodeText]
  rfl

end CoreKeys

namespace Document

/-- The value of a field as reading leaves it. -/
def wireValue (document : Document) : (field : Field) → field.kind.Value
  | .isd => document.isd.toUInt64
  | .description => document.description
  | .version => document.version
  | .creationTime => document.creationTime
  | .coreAses => document.coreAses.map CoreKeys.toJson
  | .rootCas => document.rootCas
  | .pkiLogs => document.pkiLogs
  | .quorumEepki => document.quorumEepki.toUInt64
  | .rootRainsKey => document.rootRainsKey
  | .quorumOwnTrc => document.quorumOwnTrc.toUInt64
  | .quorumCas => document.quorumCas.toUInt64
  | .quarantine => document.quarantine
  | .signatures => document.signatures.map fun signature => .string (Base64.encodeText signature)
  | .gracePeriod => document.gracePeriod

theorem readOctets_encodeText (octets : Bytes) :
    Kind.octets.read (.string (Base64.encodeText octets)) = .ok octets := by
  rw [Kind.read, Base64.decode_encodeText]
  rfl

theorem read_project (document : Document) (field : Field) :
    field.kind.read (document.project field) = .ok (document.wireValue field) := by
  have objects (members : Dict Json) : Kind.map.read (.ofDict members) = .ok members :=
    congrArg Except.ok (Dict.ofList_entries members)
  cases field with
  | rootRainsKey => exact readOctets_encodeText document.rootRainsKey
  | coreAses | rootCas | pkiLogs | signatures => exact objects _
  | _ => rfl

theorem readField_eq_ok_iff {object : Dict Json} {field : Field} {value : field.kind.Value} :
    readField object field = .ok value ↔
      ∃ found, object.get? field.name = some found ∧ field.kind.read found = .ok value := by
  unfold readField
  cases object.get? field.name with
  | none => simp [malformed]
  | some found =>
      change (field.kind.read found).mapError _ = .ok value ↔ _
      rw [mapError_eq_ok_iff]
      simp

theorem readField_projectFields (document : Document) (field : Field) :
    readField (document.projectFields true) field = .ok (document.wireValue field) := by
  have projected : field ∈ projectedFields true := mem_projectedFields.mpr (.inl rfl)
  exact readField_eq_ok_iff.mpr ⟨_, get?_projectFields projected, read_project document field⟩

theorem checkNames_eq_ok_iff {object : Dict Json} :
    checkNames object = .ok () ↔ ∀ name ∈ object.keys, ∃ field : Field, field.name = name := by
  have known {name : String} :
      (Field.ofName? name).isNone = false ↔ ∃ field : Field, field.name = name := by
    simp only [Option.isNone_eq_false_iff, Option.isSome_iff_exists, Field.ofName?_eq_some_iff]
  unfold checkNames
  constructor
  · intro passed name listed
    split at passed
    · cases passed
    · rename_i unknown
      exact known.mp (Bool.eq_false_iff.mpr (List.find?_eq_none.mp unknown name listed))
  · intro names
    have unknown : object.keys.find? (fun name => (Field.ofName? name).isNone) = none := by
      apply List.find?_eq_none.mpr
      intro name listed
      exact Bool.eq_false_iff.mp (known.mpr (names name listed))
    rw [unknown]

theorem checkNames_projectFields (document : Document) (includeSignatures : Bool) :
    checkNames (document.projectFields includeSignatures) = .ok () := by
  apply checkNames_eq_ok_iff.mpr
  intro name listed
  obtain ⟨value, found⟩ := Dict.mem_keys_iff.mp listed
  obtain ⟨field, -, named, -⟩ := get?_projectFields_eq_some_iff.mp found
  exact ⟨field, named⟩

theorem narrow16_eq_ok_iff {field : Field} {number : UInt64} {narrowed : UInt16} :
    narrow16 field number = .ok narrowed ↔ narrowed.toNat = number.toNat := by
  unfold narrow16
  constructor
  · intro narrows
    split at narrows
    · rename_i fits
      obtain rfl := Except.ok.inj narrows
      rw [UInt64.toNat_toUInt16, Nat.mod_eq_of_lt fits]
    · cases narrows
  · intro same
    have fits : number.toNat < 2 ^ 16 := same ▸ narrowed.toNat_lt
    rw [if_pos fits, Except.ok.injEq, ← UInt16.toNat_inj, UInt64.toNat_toUInt16,
      Nat.mod_eq_of_lt fits, same]

theorem narrow32_eq_ok_iff {field : Field} {number : UInt64} {narrowed : UInt32} :
    narrow32 field number = .ok narrowed ↔ narrowed.toNat = number.toNat := by
  unfold narrow32
  constructor
  · intro narrows
    split at narrows
    · rename_i fits
      obtain rfl := Except.ok.inj narrows
      rw [UInt64.toNat_toUInt32, Nat.mod_eq_of_lt fits]
    · cases narrows
  · intro same
    have fits : number.toNat < 2 ^ 32 := same ▸ narrowed.toNat_lt
    rw [if_pos fits, Except.ok.injEq, ← UInt32.toNat_inj, UInt64.toNat_toUInt32,
      Nat.mod_eq_of_lt fits, same]

theorem toUInt64_of_narrow16 {field : Field} {number : UInt64} {narrowed : UInt16}
    (narrows : narrow16 field number = .ok narrowed) : narrowed.toUInt64 = number :=
  UInt64.toNat_inj.mp (narrowed.toNat_toUInt64.trans (narrow16_eq_ok_iff.mp narrows))

theorem toUInt64_of_narrow32 {field : Field} {number : UInt64} {narrowed : UInt32}
    (narrows : narrow32 field number = .ok narrowed) : narrowed.toUInt64 = number :=
  UInt64.toNat_inj.mp (narrowed.toNat_toUInt64.trans (narrow32_eq_ok_iff.mp narrows))

theorem traverse_coreKeys (coreAses : Dict CoreKeys) :
    (coreAses.map CoreKeys.toJson).traverse readCoreKeys = .ok coreAses := by
  apply Dict.traverse_mapKeyed
  intro identifier keys
  rw [readCoreKeys, CoreKeys.ofJson_toJson]
  rfl

theorem traverse_signatures (signatures : Dict Bytes) :
    (signatures.map fun signature => .string (Base64.encodeText signature)).traverse
      readSignature = .ok signatures := by
  apply Dict.traverse_mapKeyed
  intro signer signature
  rw [readSignature, readOctets_encodeText]
  rfl

/-! ## Assembly -/

/-- The document that is put together from the values of all fields. -/
structure Assembles (values : (field : Field) → field.kind.Value) (document : Document) :
    Prop where
  isd : narrow16 .isd (values .isd) = .ok document.isd
  description : values .description = document.description
  version : values .version = document.version
  creationTime : values .creationTime = document.creationTime
  coreAses : Dict.traverse (values .coreAses) readCoreKeys = .ok document.coreAses
  rootCas : values .rootCas = document.rootCas
  pkiLogs : values .pkiLogs = document.pkiLogs
  quorumEepki : narrow32 .quorumEepki (values .quorumEepki) = .ok document.quorumEepki
  rootRainsKey : values .rootRainsKey = document.rootRainsKey
  quorumOwnTrc : narrow32 .quorumOwnTrc (values .quorumOwnTrc) = .ok document.quorumOwnTrc
  quorumCas : narrow32 .quorumCas (values .quorumCas) = .ok document.quorumCas
  quarantine : values .quarantine = document.quarantine
  signatures : Dict.traverse (values .signatures) readSignature = .ok document.signatures
  gracePeriod : values .gracePeriod = document.gracePeriod

/-- The document of the values of all fields. -/
def assemble (values : (field : Field) → field.kind.Value) : Except Error Document := do
  let coreAses ← Dict.traverse (values .coreAses) readCoreKeys
  let signatures ← Dict.traverse (values .signatures) readSignature
  let isd ← narrow16 .isd (values .isd)
  let quorumEepki ← narrow32 .quorumEepki (values .quorumEepki)
  let quorumOwnTrc ← narrow32 .quorumOwnTrc (values .quorumOwnTrc)
  let quorumCas ← narrow32 .quorumCas (values .quorumCas)
  check ⟨⟨⟨isd, values .description, values .version, coreAses, values .rootCas,
    values .pkiLogs, quorumEepki, values .rootRainsKey, quorumOwnTrc, quorumCas,
    values .quarantine, values .gracePeriod⟩, values .creationTime⟩, signatures⟩

/-- Requires that all fields can be read, one after the other. -/
def checkFields (object : Dict Json) : Except Error Unit :=
  Field.all.forM fun field => (readField object field).map fun _ => ()

theorem checkFields_eq_ok_iff {object : Dict Json} :
    checkFields object = .ok () ↔
      ∃ values : (field : Field) → field.kind.Value,
        ∀ field, readField object field = .ok (values field) := by
  rw [checkFields, forM_eq_ok_iff]
  constructor
  · intro passed
    have read (field : Field) : ∃ value, readField object field = .ok value := by
      have succeeds := passed field (Field.mem_all field)
      cases outcome : readField object field with
      | error error => rw [outcome] at succeeds; cases succeeds
      | ok value => exact ⟨value, rfl⟩
    exact ⟨fun field => (read field).choose, fun field => (read field).choose_spec⟩
  · rintro ⟨values, read⟩ field -
    rw [read]
    rfl

/-- Once all fields are read, only their values count. -/
theorem ofWire_eq_assemble {object : Dict Json} {values : (field : Field) → field.kind.Value}
    (names : checkNames object = .ok ())
    (fields : ∀ field, readField object field = .ok (values field)) :
    ofWire object = assemble values := by
  rw [ofWire, names, fields, fields, fields, fields, fields, fields, fields, fields, fields,
    fields, fields, fields, fields, fields]
  rfl

/-- The first field that cannot be read is the reason, whatever follows. -/
theorem ofWire_eq_error_of_checkFields {object : Dict Json} {error : Error}
    (names : checkNames object = .ok ()) (refused : checkFields object = .error error) :
    ofWire object = .error error := by
  have step {α : Type} {first : Except Error α} {next : α → Except Error Document}
      {rest : Except Error Unit}
      (refused : ((first.map fun _ => ()) >>= fun _ => rest) = .error error)
      (following : ∀ value, rest = .error error → next value = .error error) :
      first >>= next = .error error := by
    cases first with
    | error other =>
        cases refused
        rfl
    | ok value => exact following value refused
  rw [ofWire, names]
  change readField object .isd >>= _ = _
  refine step refused fun isd refused => ?_
  refine step refused fun description refused => ?_
  refine step refused fun version refused => ?_
  refine step refused fun creationTime refused => ?_
  refine step refused fun coreAses refused => ?_
  refine step refused fun rootCas refused => ?_
  refine step refused fun pkiLogs refused => ?_
  refine step refused fun quorumEepki refused => ?_
  refine step refused fun rootRainsKey refused => ?_
  refine step refused fun quorumOwnTrc refused => ?_
  refine step refused fun quorumCas refused => ?_
  refine step refused fun quarantine refused => ?_
  refine step refused fun signatures refused => ?_
  refine step refused fun gracePeriod refused => ?_
  cases refused

/-- Once a document is put together, only the rules for documents can refuse it. -/
theorem ofWire_eq_check {object : Dict Json} {document : Document}
    {values : (field : Field) → field.kind.Value} (names : checkNames object = .ok ())
    (fields : ∀ field, readField object field = .ok (values field))
    (assembles : Assembles values document) : ofWire object = document.check := by
  rw [ofWire_eq_assemble names fields, assemble, assembles.coreAses, assembles.signatures,
    assembles.isd, assembles.quorumEepki, assembles.quorumOwnTrc, assembles.quorumCas,
    assembles.description, assembles.version, assembles.rootCas, assembles.pkiLogs,
    assembles.rootRainsKey, assembles.quarantine, assembles.gracePeriod, assembles.creationTime]
  rfl

/-- Reading succeeds exactly if all names are known, all fields can be read, and their values make
up a valid document. -/
theorem ofWire_eq_ok_iff {object : Dict Json} {document : Document} :
    ofWire object = .ok document ↔
      (checkNames object = .ok () ∧ ∃ values : (field : Field) → field.kind.Value,
        (∀ field, readField object field = .ok (values field)) ∧ Assembles values document) ∧
      document.Valid := by
  constructor
  · intro read
    obtain ⟨⟨⟩, names, -⟩ := bind_eq_ok_iff.mp read
    cases checked : checkFields object with
    | error error => cases (ofWire_eq_error_of_checkFields names checked).symm.trans read
    | ok passed =>
        obtain ⟨values, fields⟩ := checkFields_eq_ok_iff.mp checked
        rw [ofWire_eq_assemble names fields, assemble] at read
        -- Parts of the values are read further, and then the rules apply.
        obtain ⟨_, coreKeys, read⟩ := bind_eq_ok_iff.mp read
        obtain ⟨_, signers, read⟩ := bind_eq_ok_iff.mp read
        obtain ⟨_, narrowIsd, read⟩ := bind_eq_ok_iff.mp read
        obtain ⟨_, narrowEepki, read⟩ := bind_eq_ok_iff.mp read
        obtain ⟨_, narrowOwnTrc, read⟩ := bind_eq_ok_iff.mp read
        obtain ⟨_, narrowCas, read⟩ := bind_eq_ok_iff.mp read
        obtain ⟨rfl, valid⟩ := check_eq_ok_iff.mp read
        exact ⟨⟨names, values, fields, narrowIsd, rfl, rfl, rfl, coreKeys, rfl, rfl, narrowEepki,
          rfl, narrowOwnTrc, narrowCas, rfl, signers, rfl⟩, valid⟩
  · rintro ⟨⟨names, values, fields, assembles⟩, valid⟩
    rw [ofWire_eq_check names fields assembles]
    exact check_eq_ok_iff.mpr ⟨rfl, valid⟩

theorem assembles_wireValue (document : Document) :
    Assembles document.wireValue document where
  isd := narrow16_eq_ok_iff.mpr rfl
  description := rfl
  version := rfl
  creationTime := rfl
  coreAses := traverse_coreKeys document.coreAses
  rootCas := rfl
  pkiLogs := rfl
  quorumEepki := narrow32_eq_ok_iff.mpr rfl
  rootRainsKey := rfl
  quorumOwnTrc := narrow32_eq_ok_iff.mpr rfl
  quorumCas := narrow32_eq_ok_iff.mpr rfl
  quarantine := rfl
  signatures := traverse_signatures document.signatures
  gracePeriod := rfl

/-- The object projected from a record is read as the record if that is a document, and refused for
the rule that the record breaks otherwise. -/
theorem ofWire_projectFields_eq_check (document : Document) :
    ofWire (document.projectFields true) = document.check :=
  ofWire_eq_check (checkNames_projectFields document true) (readField_projectFields document)
    (assembles_wireValue document)

/-- The object projected from a document is read as that document. -/
theorem ofWire_projectFields {document : Document} (valid : document.Valid) :
    ofWire (document.projectFields true) = .ok document := by
  rw [ofWire_projectFields_eq_check]
  exact check_eq_ok_iff.mpr ⟨rfl, valid⟩

end Document

end TrustRoot
