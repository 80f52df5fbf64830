import TrustRoot.Proofs.Document.Reading
import TrustRoot.Proofs.Text.Numeral
import TrustRoot.Proofs.Text.Base64Spelling

/-!
# What is accepted

A JSON value denotes at most one value of a kind, and reading finds it (`Kind.read_eq_ok_iff`).  An
object is therefore accepted exactly if it has the fields of a configuration, all of them denote
values, and the values are within their limits.  The document then holds these very values: nothing
is cut off on the way to narrower numbers.
-/

namespace TrustRoot

/-- The number that a JSON value writes, as a number below 2^64 or as a text of digits with zeros
at the front or without. -/
inductive Json.WritesNumber : Json → Nat → Prop where
  | number (value : UInt64) : WritesNumber (.number (.natural value)) value.toNat
  | digits {text : String} (nonempty : text ≠ "")
      (allDigits : ∀ digit ∈ text.toList, digit.isDigit)
      (fits : Nat.ofDigitChars 10 text.toList 0 < 2 ^ 64) :
      WritesNumber (.string text) (Nat.ofDigitChars 10 text.toList 0)

namespace Kind

/-- The value of a kind that a JSON value stands for. -/
def Denotes : (kind : Kind) → Json → kind.Value → Prop
  | .integer, found, value => found.WritesNumber (UInt64.toNat value)
  | .text, found, value => found = .string value
  | .octets, found, value => found = .string (Base64.encodeText value)
  | .boolean, found, value => found = .bool value
  | .map, found, value => ∃ members, found = .object members ∧ Dict.ofList members = value

theorem digitsValue?_eq_some_iff {digits : String} {value : UInt64} :
    digitsValue? digits = some value ↔ (Json.string digits).WritesNumber value.toNat := by
  unfold digitsValue?
  constructor
  · intro read
    split at read
    · rename_i number written
      obtain ⟨nonempty, allDigits, rfl⟩ := Numeral.value?_ten_eq_some_iff.mp written
      split at read
      · rename_i fits
        obtain rfl := Option.some.inj read
        rw [UInt64.toNat_ofNat_of_lt' fits]
        exact .digits (fun empty => nonempty (by rw [empty]; rfl)) allDigits fits
      · cases read
    · cases read
  · intro writes
    generalize number : value.toNat = written at writes
    cases writes with
    | digits nonempty allDigits fits =>
        have listed : digits.toList ≠ [] := by simpa using nonempty
        rw [Numeral.value?_ten_eq_some_iff.mpr ⟨listed, allDigits, rfl⟩]
        simp only [if_pos fits]
        rw [← number, UInt64.ofNat_toNat]

theorem integer?_eq_some_iff {found : Json} {value : UInt64} :
    integer? found = some value ↔ found.WritesNumber value.toNat := by
  cases found with
  | string digits => exact digitsValue?_eq_some_iff
  | number number =>
      constructor
      · intro read
        cases number with
        | natural held =>
            obtain rfl := Option.some.inj read
            exact .number held
        | _ => cases read
      · intro writes
        generalize same : value.toNat = written at writes
        cases writes with
        | number held => rw [UInt64.toNat_inj.mp same]; rfl
  | _ =>
      constructor
      · rintro ⟨⟩
      · rintro ⟨⟩

example : integer? (.string "0007") = some 7 := by decide

theorem read_integer_eq_ok_iff {found : Json} {value : UInt64} :
    integer.read found = .ok value ↔ found.WritesNumber value.toNat := by
  rw [← integer?_eq_some_iff, read]
  cases integer? found with
  | none => simp
  | some number =>
      rw [Option.some.injEq]
      constructor
      · exact Except.ok.inj
      · rintro rfl
        rfl

theorem read_octets_eq_ok_iff {found : Json} {value : Bytes} :
    octets.read found = .ok value ↔ found = .string (Base64.encodeText value) := by
  cases found with
  | string written =>
      rw [Json.string.injEq, ← Base64.decode_required_ofText_eq_ok_iff]
      exact mapError_eq_ok_iff
  | _ =>
      constructor
      · rintro ⟨⟩
      · rintro ⟨⟩

/-- Reading a JSON value as a kind gives the value that it stands for. -/
theorem read_eq_ok_iff {kind : Kind} {found : Json} {value : kind.Value} :
    kind.read found = .ok value ↔ kind.Denotes found value := by
  cases kind with
  | integer => exact read_integer_eq_ok_iff
  | octets => exact read_octets_eq_ok_iff
  | text | boolean =>
      constructor
      · intro read
        cases found <;> cases read
        rfl
      · rintro rfl
        rfl
  | map =>
      constructor
      · intro read
        cases found <;> cases read
        exact ⟨_, rfl, rfl⟩
      · rintro ⟨members, rfl, rfl⟩
        rfl

end Kind

namespace Document

/-- An object has the fields of a configuration, and these values are what they denote. -/
structure Writes (object : Dict Json) (values : (field : Field) → field.kind.Value) : Prop where
  names : ∀ name, name ∈ object.keys ↔ ∃ field : Field, field.name = name
  members : ∀ field : Field, ∃ found, object.get? field.name = some found ∧
    field.kind.Denotes found (values field)

/-- The limits of the values of a configuration: numbers are in their ranges, records of core
systems can be read, and signatures are Base64 texts. -/
structure Within (values : (field : Field) → field.kind.Value) : Prop where
  isd : 1 ≤ UInt64.toNat (values .isd) ∧ UInt64.toNat (values .isd) ≤ 2 ^ 16 - 1
  version : 1 ≤ UInt64.toNat (values .version)
  coreAses : ∀ record ∈ Dict.entries (values .coreAses),
    ∃ keys, CoreKeys.ofJson record.2 = .ok keys
  quorumEepki : UInt64.toNat (values .quorumEepki) ≤ 2 ^ 32 - 1
  quorumOwnTrc : 1 ≤ UInt64.toNat (values .quorumOwnTrc) ∧
    UInt64.toNat (values .quorumOwnTrc) ≤ 2 ^ 32 - 1 ∧
    UInt64.toNat (values .quorumOwnTrc) ≤ Dict.size (values .coreAses)
  quorumCas : 1 ≤ UInt64.toNat (values .quorumCas) ∧
    UInt64.toNat (values .quorumCas) ≤ 2 ^ 32 - 1
  signatures : ∀ entry ∈ Dict.entries (values .signatures),
    ∃ octets, entry.2 = .string (Base64.encodeText octets)

/-- A document holds these values, the records and the signatures among them decoded. -/
structure Holds (document : Document) (values : (field : Field) → field.kind.Value) : Prop where
  isd : document.isd.toNat = UInt64.toNat (values .isd)
  description : document.description = values .description
  version : document.version = values .version
  creationTime : document.creationTime = values .creationTime
  coreAses : ∀ identifier, Option.Rel (fun record keys => CoreKeys.ofJson record = .ok keys)
    (Dict.get? (values .coreAses) identifier) (document.coreAses.get? identifier)
  rootCas : document.rootCas = values .rootCas
  pkiLogs : document.pkiLogs = values .pkiLogs
  quorumEepki : document.quorumEepki.toNat = UInt64.toNat (values .quorumEepki)
  rootRainsKey : document.rootRainsKey = values .rootRainsKey
  quorumOwnTrc : document.quorumOwnTrc.toNat = UInt64.toNat (values .quorumOwnTrc)
  quorumCas : document.quorumCas.toNat = UInt64.toNat (values .quorumCas)
  quarantine : document.quarantine = values .quarantine
  signatures : ∀ signer, Option.Rel (fun found (octets : Bytes) => Kind.octets.Denotes found octets)
    (Dict.get? (values .signatures) signer) (document.signatures.get? signer)
  gracePeriod : document.gracePeriod = values .gracePeriod

/-! ## Steps of reading -/

theorem readCoreKeys_eq_ok_iff {identifier : String} {found : Json} {keys : CoreKeys} :
    readCoreKeys identifier found = .ok keys ↔ CoreKeys.ofJson found = .ok keys :=
  mapError_eq_ok_iff

theorem readSignature_eq_ok_iff {signer : String} {found : Json} {octets : Bytes} :
    readSignature signer found = .ok octets ↔ Kind.octets.Denotes found octets :=
  mapError_eq_ok_iff.trans Kind.read_octets_eq_ok_iff

theorem writes_iff {object : Dict Json} {values : (field : Field) → field.kind.Value} :
    Writes object values ↔
      checkNames object = .ok () ∧ ∀ field, readField object field = .ok (values field) := by
  simp only [checkNames_eq_ok_iff, readField_eq_ok_iff, Kind.read_eq_ok_iff]
  constructor
  · intro writes
    exact ⟨fun name listed => (writes.names name).mp listed, writes.members⟩
  · rintro ⟨known, members⟩
    refine ⟨fun name => ⟨known name, ?_⟩, members⟩
    rintro ⟨field, rfl⟩
    obtain ⟨found, held, -⟩ := members field
    exact Dict.mem_keys_iff.mpr ⟨found, held⟩

theorem assembles_iff_holds {document : Document} {values : (field : Field) → field.kind.Value} :
    Assembles values document ↔ Holds document values := by
  constructor
  · intro assembles
    exact {
      isd := narrow16_eq_ok_iff.mp assembles.isd
      description := assembles.description.symm
      version := assembles.version.symm
      creationTime := assembles.creationTime.symm
      coreAses := fun identifier => by
        simpa only [readCoreKeys_eq_ok_iff] using Dict.get?_traverse assembles.coreAses identifier
      rootCas := assembles.rootCas.symm
      pkiLogs := assembles.pkiLogs.symm
      quorumEepki := narrow32_eq_ok_iff.mp assembles.quorumEepki
      rootRainsKey := assembles.rootRainsKey.symm
      quorumOwnTrc := narrow32_eq_ok_iff.mp assembles.quorumOwnTrc
      quorumCas := narrow32_eq_ok_iff.mp assembles.quorumCas
      quarantine := assembles.quarantine.symm
      signatures := fun signer => by
        simpa only [readSignature_eq_ok_iff] using Dict.get?_traverse assembles.signatures signer
      gracePeriod := assembles.gracePeriod.symm }
  · intro holds
    exact {
      isd := narrow16_eq_ok_iff.mpr holds.isd
      description := holds.description.symm
      version := holds.version.symm
      creationTime := holds.creationTime.symm
      coreAses := Dict.traverse_eq_ok_iff.mpr fun identifier => by
        simpa only [readCoreKeys_eq_ok_iff] using holds.coreAses identifier
      rootCas := holds.rootCas.symm
      pkiLogs := holds.pkiLogs.symm
      quorumEepki := narrow32_eq_ok_iff.mpr holds.quorumEepki
      rootRainsKey := holds.rootRainsKey.symm
      quorumOwnTrc := narrow32_eq_ok_iff.mpr holds.quorumOwnTrc
      quorumCas := narrow32_eq_ok_iff.mpr holds.quorumCas
      quarantine := holds.quarantine.symm
      signatures := Dict.traverse_eq_ok_iff.mpr fun signer => by
        simpa only [readSignature_eq_ok_iff] using holds.signatures signer
      gracePeriod := holds.gracePeriod.symm }

/-! ## Limits -/

/-- A document holds only values within their limits. -/
theorem within_of_valid {document : Document} {values : (field : Field) → field.kind.Value}
    (holds : Holds document values) (valid : document.Valid) : Within values := by
  have isdBound := document.isd.toNat_lt
  have eepkiBound := document.quorumEepki.toNat_lt
  have quorumBound := document.quorumOwnTrc.toNat_lt
  have casBound := document.quorumCas.toNat_lt
  have isd : document.isd.toNat ≠ 0 := by
    simpa [← UInt16.toNat_inj] using valid.isd_ne_zero
  have version : document.version.toNat ≠ 0 := by
    simpa [← UInt64.toNat_inj] using valid.version_ne_zero
  have quorum : document.quorumOwnTrc.toNat ≠ 0 := by
    simpa [← UInt32.toNat_inj] using valid.quorum_ne_zero
  have cas : document.quorumCas.toNat ≠ 0 := by
    simpa [← UInt32.toNat_inj] using valid.quorumCas_ne_zero
  have core := Dict.size_eq_of_rel holds.coreAses
  constructor
  case isd => rw [← holds.isd]; omega
  case version => rw [← holds.version]; omega
  case coreAses => exact fun record listed => Dict.exists_of_rel holds.coreAses listed
  case quorumEepki => rw [← holds.quorumEepki]; omega
  case quorumOwnTrc =>
    rw [← holds.quorumOwnTrc, core]
    exact ⟨by omega, by omega, valid.quorum_le_core⟩
  case quorumCas => rw [← holds.quorumCas]; omega
  case signatures => exact fun entry listed => Dict.exists_of_rel holds.signatures listed

/-- A record of values within their limits obeys the rules for documents. -/
theorem valid_of_within {document : Document} {values : (field : Field) → field.kind.Value}
    (holds : Holds document values) (within : Within values) : document.Valid := by
  have isd := within.isd
  have version := within.version
  have quorum := within.quorumOwnTrc
  have cas := within.quorumCas
  rw [← holds.isd] at isd
  rw [← holds.version] at version
  rw [← holds.quorumOwnTrc, Dict.size_eq_of_rel holds.coreAses] at quorum
  rw [← holds.quorumCas] at cas
  constructor
  case isd_ne_zero => intro zero; simp [zero] at isd
  case version_ne_zero => intro zero; simp [zero] at version
  case quorum_ne_zero => intro zero; simp [zero] at quorum
  case quorum_le_core => exact quorum.2.2
  case quorumCas_ne_zero => intro zero; simp [zero] at cas

/-- Values within their limits make up a document. -/
theorem exists_holds {values : (field : Field) → field.kind.Value} (within : Within values) :
    ∃ document : Document, Holds document values := by
  obtain ⟨coreAses, coreRead⟩ :=
    Dict.exists_traverse_eq_ok (f := fun _ record => CoreKeys.ofJson record) within.coreAses
  obtain ⟨signatures, signaturesRead⟩ := Dict.exists_traverse_eq_ok (f := readSignature)
    fun entry listed => by
      obtain ⟨octets, denotes⟩ := within.signatures entry listed
      exact ⟨octets, readSignature_eq_ok_iff.mpr denotes⟩
  have isd := within.isd
  have quorum := within.quorumOwnTrc
  have cas := within.quorumCas
  have eepki := within.quorumEepki
  exact ⟨{
    isd := UInt64.toUInt16 (values .isd)
    description := values .description
    version := values .version
    creationTime := values .creationTime
    coreAses := coreAses
    rootCas := values .rootCas
    pkiLogs := values .pkiLogs
    quorumEepki := UInt64.toUInt32 (values .quorumEepki)
    rootRainsKey := values .rootRainsKey
    quorumOwnTrc := UInt64.toUInt32 (values .quorumOwnTrc)
    quorumCas := UInt64.toUInt32 (values .quorumCas)
    quarantine := values .quarantine
    signatures := signatures
    gracePeriod := values .gracePeriod }, {
    isd := (UInt64.toNat_toUInt16 _).trans (Nat.mod_eq_of_lt (by omega))
    description := rfl
    version := rfl
    creationTime := rfl
    coreAses := Dict.get?_traverse coreRead
    rootCas := rfl
    pkiLogs := rfl
    quorumEepki := (UInt64.toNat_toUInt32 _).trans (Nat.mod_eq_of_lt (by omega))
    rootRainsKey := rfl
    quorumOwnTrc := (UInt64.toNat_toUInt32 _).trans (Nat.mod_eq_of_lt (by omega))
    quorumCas := (UInt64.toNat_toUInt32 _).trans (Nat.mod_eq_of_lt (by omega))
    quarantine := rfl
    signatures := fun signer => by
      simpa only [readSignature_eq_ok_iff] using Dict.get?_traverse signaturesRead signer
    gracePeriod := rfl }⟩

theorem ofWire_eq_ok_iff_holds {object : Dict Json} {document : Document} :
    ofWire object = .ok document ↔
      ∃ values, Writes object values ∧ Within values ∧ Holds document values := by
  simp only [ofWire_eq_ok_iff, writes_iff, assembles_iff_holds]
  constructor
  · rintro ⟨⟨names, values, fields, holds⟩, valid⟩
    exact ⟨values, ⟨names, fields⟩, within_of_valid holds valid, holds⟩
  · rintro ⟨values, ⟨names, fields⟩, within, holds⟩
    exact ⟨⟨names, values, fields, holds⟩, valid_of_within holds within⟩

/-- An object is accepted exactly if it writes values for all fields of a configuration, and nothing
else, and the values are within their limits.  The document then holds just these values. -/
theorem ofWire_accepts (object : Dict Json) :
    ((∃ document, ofWire object = .ok document) ↔
      ∃ values, Writes object values ∧ Within values) ∧
    ∀ document, ofWire object = .ok document ↔
      ∃ values, Writes object values ∧ Within values ∧ Holds document values := by
  refine ⟨⟨?_, ?_⟩, fun document => ofWire_eq_ok_iff_holds⟩
  · rintro ⟨document, read⟩
    obtain ⟨values, writes, within, -⟩ := ofWire_eq_ok_iff_holds.mp read
    exact ⟨values, writes, within⟩
  · rintro ⟨values, writes, within⟩
    obtain ⟨document, holds⟩ := exists_holds within
    exact ⟨document, ofWire_eq_ok_iff_holds.mpr ⟨values, writes, within, holds⟩⟩

end Document

end TrustRoot
