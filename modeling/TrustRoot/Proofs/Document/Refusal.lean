import TrustRoot.Proofs.Document.Acceptance
import TrustRoot.Proofs.Document.Slots
import TrustRoot.Proofs.FirstFailure

/-!
# The reason for refusing an object

An object is judged as if the requirements on it were checked one after the other, whatever passes
the reader makes over its members.  It is refused for the first requirement that it breaks, and
among the names, records and signatures that break one requirement the smallest counts
(`ofWire_first_broken`).
-/

namespace TrustRoot.Document

/-- What is required of an object. -/
inductive Requirement where
  | knownNames
  | readable (field : Field)
  | records
  | signatures
  | fits (field : Field)
  | positive (field : Field)
  | quorumWithinCore
  deriving DecidableEq

/-- The number of bits that the number of a field has at most. -/
def width : Field → Nat
  | .isd => 16
  | .quorumEepki | .quorumOwnTrc | .quorumCas => 32
  | _ => 64

namespace Requirement

/-- The rules for documents. -/
def rules : List Requirement :=
  [.positive .isd, .positive .version, .positive .quorumOwnTrc, .quorumWithinCore,
    .positive .quorumCas]

/-- What is required once all fields can be read. -/
def further : List Requirement :=
  [.records, .signatures, .fits .isd, .fits .quorumEepki, .fits .quorumOwnTrc, .fits .quorumCas] ++
    rules

/-- All requirements in the order in which they count. -/
def order : List Requirement := .knownNames :: (Field.all.map .readable ++ further)

end Requirement

/-- The members of a field, if it holds an object. -/
def membersOf? (object : Dict Json) (field : Field) : Option (Dict Json) :=
  match object.get? field.name with
  | some (.object members) => some (.ofList members)
  | _ => none

/-- An object breaks a requirement: the name of the malformed field, and why it is malformed. -/
inductive Broken (object : Dict Json) : Requirement → String → MalformedReason → Prop where
  | unknown {name : String} (listed : name ∈ object.keys)
      (foreign : ∀ field : Field, field.name ≠ name)
      (before : ∀ other ∈ object.keys, Bytes.ofText other < Bytes.ofText name →
        ∃ field : Field, field.name = other) :
      Broken object .knownNames name .unknownField
  | missing {field : Field} (absent : object.get? field.name = none) :
      Broken object (.readable field) field.name .missing
  | unreadable {field : Field} {found : Json} {fault : ValueFault}
      (held : object.get? field.name = some found)
      (refused : field.kind.read found = .error fault) :
      Broken object (.readable field) field.name (.value fault)
  | record {records : Dict Json} {identifier : String} {fault : CoreKeys.Fault}
      (held : membersOf? object .coreAses = some records)
      (refused : records.FirstFailure (fun _ => CoreKeys.ofJson) identifier fault) :
      Broken object .records Field.coreAses.name (.coreKeys identifier fault)
  | signature {entries : Dict Json} {signer : String} {fault : ValueFault}
      (held : membersOf? object .signatures = some entries)
      (refused : entries.FirstFailure (fun _ => Kind.octets.read) signer fault) :
      Broken object .signatures Field.signatures.name (.signature signer fault)
  | tooWide {field : Field} {found : Json} {number : UInt64}
      (held : object.get? field.name = some found) (writes : found.WritesNumber number.toNat)
      (wide : 2 ^ width field ≤ number.toNat) :
      Broken object (.fits field) field.name (.outOfRange number)
  | zero {field : Field} {found : Json} (held : object.get? field.name = some found)
      (writes : found.WritesNumber 0) :
      Broken object (.positive field) field.name .notPositive
  | beyondCore {found : Json} {quorum : UInt32} {records : Dict Json}
      (held : object.get? Field.quorumOwnTrc.name = some found)
      (writes : found.WritesNumber quorum.toNat)
      (core : membersOf? object .coreAses = some records) (beyond : records.size < quorum.toNat) :
      Broken object .quorumWithinCore Field.quorumOwnTrc.name (.exceedsCore quorum records.size)

/-! ## Names -/

def checkName (name : String) : Except Error Unit :=
  match Field.ofName? name with
  | some _ => .ok ()
  | none => .error (.malformed name .unknownField)

theorem checkNames_eq_forM (object : Dict Json) :
    checkNames object = object.entries.forM fun entry => checkName entry.1 := by
  unfold checkNames Dict.keys
  induction object.entries with
  | nil => rfl
  | cons head rest ih =>
      change _ = checkName head.1 >>= fun _ => rest.forM fun entry => checkName entry.1
      rw [← ih, List.map_cons, List.find?_cons, checkName]
      cases Field.ofName? head.1 <;> rfl

theorem checkName_eq_ok_iff {name : String} :
    checkName name = .ok () ↔ ∃ field : Field, field.name = name := by
  simp only [← Field.ofName?_eq_some_iff, ← Option.isSome_iff_exists, checkName]
  cases Field.ofName? name <;> simp

theorem checkName_eq_error_iff {name : String} {error : Error} :
    checkName name = .error error ↔
      error = .malformed name .unknownField ∧ ∀ field : Field, field.name ≠ name := by
  simp only [ne_eq, ← Field.ofName?_eq_some_iff, ← Option.eq_none_iff_forall_ne_some, checkName]
  cases Field.ofName? name <;> simp [eq_comm]

theorem checkNames_eq_error_iff {object : Dict Json} {error : Error} :
    checkNames object = .error error ↔
      ∃ name reason, error = .malformed name reason ∧ Broken object .knownNames name reason := by
  rw [checkNames_eq_forM, Dict.forM_entries_eq_error_iff fun name _ => checkName name]
  constructor
  · rintro ⟨name, ⟨value, held, refused⟩, before⟩
    obtain ⟨rfl, foreign⟩ := checkName_eq_error_iff.mp refused
    refine ⟨name, _, rfl, .unknown (Dict.mem_keys_iff.mpr ⟨value, held⟩) foreign ?_⟩
    intro other listed below
    obtain ⟨value', held'⟩ := Dict.mem_keys_iff.mp listed
    obtain ⟨⟨⟩, passed⟩ := before other value' held' below
    exact checkName_eq_ok_iff.mp passed
  · rintro ⟨name, _, rfl, listed, foreign, before⟩
    obtain ⟨value, held⟩ := Dict.mem_keys_iff.mp listed
    refine ⟨name, ⟨value, held, checkName_eq_error_iff.mpr ⟨rfl, foreign⟩⟩, ?_⟩
    intro other value' held' below
    have known := before other (Dict.mem_keys_iff.mpr ⟨value', held'⟩) below
    exact ⟨(), checkName_eq_ok_iff.mpr known⟩

example : checkNames (.ofList [("Version", .null), ("b", .null), ("a", .null)]) =
    .error (.malformed "a" .unknownField) := rfl

/-! ## One requirement -/

/-- The number of a field, if it can be read as one. -/
def numberOf? (object : Dict Json) (field : Field) : Option UInt64 :=
  (object.get? field.name).bind Kind.integer?

/-- Requires a step to succeed at every member of a field. -/
def checkMembers {α : Type} (object : Dict Json) (field : Field)
    (step : String → Json → Except Error α) : Except Error Unit :=
  match membersOf? object field with
  | some members => (members.traverse step).map fun _ => ()
  | none => .ok ()

/-- The check of one requirement by itself.  What cannot be read is left to `readable`. -/
def Requirement.check (object : Dict Json) : Requirement → Except Error Unit
  | .knownNames => checkNames object
  | .readable field => (readField object field).map fun _ => ()
  | .records => checkMembers object .coreAses readCoreKeys
  | .signatures => checkMembers object .signatures readSignature
  | .fits field =>
    match numberOf? object field with
    | some number =>
      if 2 ^ width field ≤ number.toNat then malformed field (.outOfRange number) else .ok ()
    | none => .ok ()
  | .positive field =>
    if numberOf? object field = some 0 then malformed field .notPositive else .ok ()
  | .quorumWithinCore =>
    match numberOf? object .quorumOwnTrc, membersOf? object .coreAses with
    | some number, some core =>
      if number.toNat < 2 ^ 32 ∧ core.size < number.toNat then
        malformed .quorumOwnTrc (.exceedsCore number.toUInt32 core.size)
      else .ok ()
    | _, _ => .ok ()

section

variable {object : Dict Json} {field : Field} {error : Error}

theorem numberOf?_eq_some_iff {number : UInt64} :
    numberOf? object field = some number ↔
      ∃ found, object.get? field.name = some found ∧ found.WritesNumber number.toNat := by
  simp only [numberOf?, Option.bind_eq_some_iff, Kind.integer?_eq_some_iff]

theorem readField_eq_error_iff :
    readField object field = .error error ↔
      ∃ name reason, error = .malformed name reason ∧
        Broken object (.readable field) name reason := by
  unfold readField
  cases held : object.get? field.name with
  | none =>
      constructor
      · rintro ⟨⟩
        exact ⟨_, _, rfl, .missing held⟩
      · rintro ⟨_, _, rfl, broken⟩
        cases broken with
        | missing => rfl
        | unreadable held' => cases held.symm.trans held'
  | some found =>
      rw [mapError_eq_error_iff]
      constructor
      · rintro ⟨fault, refused, rfl⟩
        exact ⟨_, _, rfl, .unreadable held refused⟩
      · rintro ⟨_, _, rfl, broken⟩
        cases broken with
        | missing absent => cases held.symm.trans absent
        | unreadable held' refused =>
            cases held.symm.trans held'
            exact ⟨_, refused, rfl⟩

theorem checkMembers_eq_error_iff {ε α : Type} {step : String → Json → Except ε α}
    {reason : String → ε → Error} :
    checkMembers object field (fun key found => (step key found).mapError (reason key)) =
        .error error ↔
      ∃ members key fault, membersOf? object field = some members ∧
        members.FirstFailure step key fault ∧ error = reason key fault := by
  unfold checkMembers
  cases membersOf? object field with
  | none => simp
  | some members =>
      simp only [map_eq_error_iff, Dict.traverse_eq_error_iff, Dict.firstFailure_mapError_iff,
        Option.some.injEq]
      constructor
      · rintro ⟨key, fault, same, first⟩
        exact ⟨members, key, fault, rfl, first, same⟩
      · rintro ⟨_, key, fault, rfl, first, same⟩
        exact ⟨key, fault, same, first⟩

theorem check_records_eq_error_iff :
    Requirement.records.check object = .error error ↔
      ∃ name reason, error = .malformed name reason ∧ Broken object .records name reason := by
  refine checkMembers_eq_error_iff.trans ⟨?_, ?_⟩
  · rintro ⟨records, identifier, fault, held, refused, rfl⟩
    exact ⟨_, _, rfl, .record held refused⟩
  · rintro ⟨_, _, rfl, broken⟩
    cases broken with
    | record held refused => exact ⟨_, _, _, held, refused, rfl⟩

theorem check_signatures_eq_error_iff :
    Requirement.signatures.check object = .error error ↔
      ∃ name reason, error = .malformed name reason ∧ Broken object .signatures name reason := by
  refine checkMembers_eq_error_iff.trans ⟨?_, ?_⟩
  · rintro ⟨entries, signer, fault, held, refused, rfl⟩
    exact ⟨_, _, rfl, .signature held refused⟩
  · rintro ⟨_, _, rfl, broken⟩
    cases broken with
    | signature held refused => exact ⟨_, _, _, held, refused, rfl⟩

theorem check_fits_eq_error_iff :
    (Requirement.fits field).check object = .error error ↔
      ∃ name reason, error = .malformed name reason ∧
        Broken object (.fits field) name reason := by
  simp only [Requirement.check]
  cases read : numberOf? object field with
  | none =>
      constructor
      · rintro ⟨⟩
      · rintro ⟨_, _, rfl, broken⟩
        cases broken with
        | tooWide held writes => cases read.symm.trans (numberOf?_eq_some_iff.mpr ⟨_, held, writes⟩)
  | some number =>
      dsimp only [malformed]
      rw [ite_error_eq_error_iff]
      constructor
      · rintro ⟨wide, rfl⟩
        obtain ⟨found, held, writes⟩ := numberOf?_eq_some_iff.mp read
        exact ⟨_, _, rfl, .tooWide held writes wide⟩
      · rintro ⟨_, _, rfl, broken⟩
        cases broken with
        | tooWide held writes wide =>
            cases read.symm.trans (numberOf?_eq_some_iff.mpr ⟨_, held, writes⟩)
            exact ⟨wide, rfl⟩

theorem check_positive_eq_error_iff :
    (Requirement.positive field).check object = .error error ↔
      ∃ name reason, error = .malformed name reason ∧
        Broken object (.positive field) name reason := by
  simp only [Requirement.check, malformed, ite_error_eq_error_iff, numberOf?_eq_some_iff]
  constructor
  · rintro ⟨⟨found, held, writes⟩, rfl⟩
    exact ⟨_, _, rfl, .zero held writes⟩
  · rintro ⟨_, _, rfl, broken⟩
    cases broken with
    | zero held writes => exact ⟨⟨_, held, writes⟩, rfl⟩

theorem check_quorumWithinCore_eq_error_iff :
    Requirement.quorumWithinCore.check object = .error error ↔
      ∃ name reason, error = .malformed name reason ∧
        Broken object .quorumWithinCore name reason := by
  -- A quorum that is reported is one that fits, so the number is not cut off.
  have read_of_writes {found : Json} {quorum : UInt32}
      (held : object.get? Field.quorumOwnTrc.name = some found)
      (writes : found.WritesNumber quorum.toNat) :
      numberOf? object .quorumOwnTrc = some quorum.toUInt64 :=
    numberOf?_eq_some_iff.mpr ⟨found, held, by rwa [UInt32.toNat_toUInt64]⟩
  simp only [Requirement.check]
  split
  · rename_i number core read held
    rw [malformed, ite_error_eq_error_iff]
    constructor
    · rintro ⟨⟨fits, beyond⟩, rfl⟩
      obtain ⟨found, written, writes⟩ := numberOf?_eq_some_iff.mp read
      have exact : number.toUInt32.toNat = number.toNat := by
        rw [UInt64.toNat_toUInt32, Nat.mod_eq_of_lt fits]
      rw [← exact] at writes beyond
      exact ⟨_, _, rfl, .beyondCore written writes held beyond⟩
    · rintro ⟨_, _, rfl, broken⟩
      cases broken with
      | @beyondCore _ quorum _ written writes held' beyond =>
          cases held.symm.trans held'
          cases read.symm.trans (read_of_writes written writes)
          rw [UInt32.toNat_toUInt64, UInt32.toUInt32_toUInt64]
          exact ⟨⟨quorum.toNat_lt, beyond⟩, rfl⟩
  · rename_i unread
    constructor
    · rintro ⟨⟩
    · rintro ⟨_, _, rfl, broken⟩
      cases broken with
      | beyondCore written writes held =>
          exact (unread _ _ (read_of_writes written writes) held).elim

theorem Requirement.check_eq_error_iff {requirement : Requirement} :
    requirement.check object = .error error ↔
      ∃ name reason, error = .malformed name reason ∧ Broken object requirement name reason := by
  cases requirement with
  | knownNames => exact checkNames_eq_error_iff
  | readable field => exact map_eq_error_iff.trans readField_eq_error_iff
  | records => exact check_records_eq_error_iff
  | signatures => exact check_signatures_eq_error_iff
  | fits field => exact check_fits_eq_error_iff
  | positive field => exact check_positive_eq_error_iff
  | quorumWithinCore => exact check_quorumWithinCore_eq_error_iff

theorem Requirement.check_eq_ok_iff {requirement : Requirement} :
    requirement.check object = .ok () ↔ ∀ name reason, ¬ Broken object requirement name reason := by
  constructor
  · intro passed name reason broken
    cases passed.symm.trans (check_eq_error_iff.mpr ⟨name, reason, rfl, broken⟩)
  · intro unbroken
    cases outcome : requirement.check object with
    | ok passed => rfl
    | error error =>
        obtain ⟨name, reason, -, broken⟩ := check_eq_error_iff.mp outcome
        exact absurd broken (unbroken name reason)

/-! ## What was read -/

theorem numberOf?_of_readField (isNumber : field.kind = .integer) {value : field.kind.Value}
    (read : readField object field = .ok value) :
    numberOf? object field = some (isNumber ▸ value : Kind.integer.Value) := by
  obtain ⟨found, held, accepted⟩ := readField_eq_ok_iff.mp read
  rw [numberOf?, held, Option.bind_some]
  clear read
  generalize field.kind = kind at isNumber value accepted
  subst isNumber
  exact Kind.integer?_eq_some_iff.mpr (Kind.read_integer_eq_ok_iff.mp accepted)

theorem membersOf?_of_readField (isMap : field.kind = .map) {value : field.kind.Value}
    (read : readField object field = .ok value) :
    membersOf? object field = some (isMap ▸ value : Kind.map.Value) := by
  obtain ⟨found, held, accepted⟩ := readField_eq_ok_iff.mp read
  rw [membersOf?, held]
  clear read
  generalize field.kind = kind at isMap value accepted
  subst isMap
  obtain ⟨members, rfl, rfl⟩ := Kind.read_eq_ok_iff.mp accepted
  rfl

/-- A number fits if it becomes narrower. -/
theorem check_fits {α : Type} {number : UInt64} (read : numberOf? object field = some number)
    (narrowed : α) :
    (Requirement.fits field).check object =
      (if number.toNat < 2 ^ width field then Except.ok narrowed
        else malformed field (.outOfRange number)).map fun _ => () := by
  simp only [Requirement.check, read]
  by_cases small : number.toNat < 2 ^ width field
  · rw [if_neg (Nat.not_le.mpr small), if_pos small]
    rfl
  · rw [if_pos (Nat.not_lt.mp small), if_neg small]
    rfl

/-- The rules for documents are requirements on the numbers that were read. -/
theorem map_check_eq_forM {document : Document} {records : Dict Json}
    (isd : numberOf? object .isd = some document.isd.toUInt64)
    (version : numberOf? object .version = some document.version)
    (quorum : numberOf? object .quorumOwnTrc = some document.quorumOwnTrc.toUInt64)
    (cas : numberOf? object .quorumCas = some document.quorumCas.toUInt64)
    (core : membersOf? object .coreAses = some records)
    (size : records.size = document.coreAses.size) :
    (document.check.map fun _ => ()) = forM Requirement.rules (Requirement.check object) := by
  have zero16 : document.isd.toUInt64 = 0 ↔ document.isd = 0 := by
    rw [← UInt64.toNat_inj, ← UInt16.toNat_inj, UInt16.toNat_toUInt64]
    rfl
  have zero32 (number : UInt32) : number.toUInt64 = 0 ↔ number = 0 := by
    rw [← UInt64.toNat_inj, ← UInt32.toNat_inj, UInt32.toNat_toUInt64]
    rfl
  have small := document.quorumOwnTrc.toNat_lt
  simp only [Requirement.rules, List.forM_cons, List.forM_nil, Requirement.check, isd, version,
    quorum, cas, core, size, Option.some.injEq, zero16, zero32, UInt32.toNat_toUInt64,
    UInt32.toUInt32_toUInt64, small, true_and, check]
  split
  · rfl
  split
  · rfl
  split
  · rfl
  split
  · rfl
  split <;> rfl

/-! ## One after the other -/

/-- A step is followed by what the rest asks for, given the value of the step. -/
theorem map_bind_eq {ε α β : Type} {first : Except ε α} {next : α → Except ε β}
    {rest : Except ε Unit}
    (following : ∀ value, first = .ok value → ((next value).map fun _ => ()) = rest) :
    ((first >>= next).map fun _ => ()) = (first.map fun _ => ()) >>= fun _ => rest := by
  cases first with
  | error error => rfl
  | ok value => exact following value rfl

/-- The values of all fields are read further and checked in the order of the requirements. -/
theorem map_assemble_eq_forM {values : (field : Field) → field.kind.Value}
    (read : ∀ field, readField object field = .ok (values field)) :
    ((assemble values).map fun _ => ()) = forM Requirement.further (Requirement.check object) := by
  have isd : numberOf? object .isd = some (values .isd) := numberOf?_of_readField rfl (read _)
  have version : numberOf? object .version = some (values .version) :=
    numberOf?_of_readField rfl (read _)
  have eepki : numberOf? object .quorumEepki = some (values .quorumEepki) :=
    numberOf?_of_readField rfl (read _)
  have quorum : numberOf? object .quorumOwnTrc = some (values .quorumOwnTrc) :=
    numberOf?_of_readField rfl (read _)
  have cas : numberOf? object .quorumCas = some (values .quorumCas) :=
    numberOf?_of_readField rfl (read _)
  have core : membersOf? object .coreAses = some (values .coreAses) :=
    membersOf?_of_readField rfl (read _)
  have signers : membersOf? object .signatures = some (values .signatures) :=
    membersOf?_of_readField rfl (read _)
  have records : Requirement.records.check object =
      (Dict.traverse (values .coreAses) readCoreKeys).map fun _ => () := by
    simp only [Requirement.check, checkMembers, core]
  have signatures : Requirement.signatures.check object =
      (Dict.traverse (values .signatures) readSignature).map fun _ => () := by
    simp only [Requirement.check, checkMembers, signers]
  simp only [Requirement.further, List.cons_append, List.nil_append, List.forM_cons]
  rw [records, signatures, check_fits isd (UInt64.toUInt16 _), check_fits eepki (UInt64.toUInt32 _),
    check_fits quorum (UInt64.toUInt32 _), check_fits cas (UInt64.toUInt32 _)]
  refine map_bind_eq fun coreAses coreRead => ?_
  refine map_bind_eq fun _ _ => ?_
  refine map_bind_eq fun _ isdFits => ?_
  refine map_bind_eq fun _ _ => ?_
  refine map_bind_eq fun _ quorumFits => ?_
  refine map_bind_eq fun _ casFits => ?_
  -- What is left are the rules for documents.
  refine map_check_eq_forM ?isd ?version ?quorum ?cas core ?size
  case isd => exact isd.trans (congrArg some (toUInt64_of_narrow16 isdFits).symm)
  case version => exact version
  case quorum => exact quorum.trans (congrArg some (toUInt64_of_narrow32 quorumFits).symm)
  case cas => exact cas.trans (congrArg some (toUInt64_of_narrow32 casFits).symm)
  case size => exact Dict.size_eq_of_rel (Dict.get?_traverse coreRead)

/-- Reading an object checks the requirements on it in their order. -/
theorem map_ofWire_eq_forM (object : Dict Json) :
    ((ofWire object).map fun _ => ()) = forM Requirement.order (Requirement.check object) := by
  have fields : forM (Field.all.map .readable) (Requirement.check object) = checkFields object := by
    rfl
  rw [Requirement.order, List.forM_cons, List.forM_append, fields, Requirement.check]
  cases names : checkNames object with
  | error error =>
      rw [ofWire, names]
      rfl
  | ok passed =>
      cases checked : checkFields object with
      | error error =>
          rw [ofWire_eq_error_of_checkFields names checked]
          rfl
      | ok passed =>
          obtain ⟨values, read⟩ := checkFields_eq_ok_iff.mp checked
          rw [ofWire_eq_assemble names read]
          exact map_assemble_eq_forM read

theorem ofWire_eq_error_iff :
    ofWire object = .error error ↔
      ∃ before requirement after, Requirement.order = before ++ requirement :: after ∧
        (∀ earlier ∈ before, ∀ name reason, ¬ Broken object earlier name reason) ∧
        ∃ name reason, error = .malformed name reason ∧
          Broken object requirement name reason := by
  simp only [← Requirement.check_eq_ok_iff, ← Requirement.check_eq_error_iff]
  rw [← forM_eq_error_iff]
  change _ ↔ forM Requirement.order (Requirement.check object) = _
  rw [← map_ofWire_eq_forM, map_eq_error_iff]

theorem exists_ofWire_eq_ok_iff :
    (∃ document, ofWire object = .ok document) ↔
      ∀ requirement ∈ Requirement.order, ∀ name reason,
        ¬ Broken object requirement name reason := by
  have accepted : (∃ document, ofWire object = .ok document) ↔
      ((ofWire object).map fun _ => ()) = .ok () := by
    cases ofWire object <;> simp [Except.map]
  simp only [← Requirement.check_eq_ok_iff]
  rw [accepted, map_ofWire_eq_forM, ← forM_eq_ok_iff]
  rfl

end

/-- The texts of the reasons that name a key start with it. -/
theorem message_startsWith_key :
    (∀ identifier fault, ∃ rest, (MalformedReason.coreKeys identifier fault).message =
      identifier ++ ": " ++ rest) ∧
    ∀ signer fault, ∃ rest, (MalformedReason.signature signer fault).message =
      signer ++ ": " ++ rest :=
  ⟨fun _ fault => ⟨fault.message, rfl⟩, fun _ fault => ⟨fault.message, rfl⟩⟩

/-- An object is accepted if it breaks no requirement, and refused for the first one that it breaks:
an unknown name, then a field that is missing or cannot be read, the records of core systems, the
signatures, the widths of numbers, and the rules for documents.  Reading by way of slots comes to
the same, so that no slot is empty or holds a value of another kind when it is asked for. -/
theorem ofWire_first_broken (object : Dict Json) :
    ((∃ document, ofWire object = .ok document) ↔
      ∀ requirement ∈ Requirement.order, ∀ name reason,
        ¬ Broken object requirement name reason) ∧
    (∀ error, ofWire object = .error error ↔
      ∃ before requirement after, Requirement.order = before ++ requirement :: after ∧
        (∀ earlier ∈ before, ∀ name reason, ¬ Broken object earlier name reason) ∧
        ∃ name reason, error = .malformed name reason ∧
          Broken object requirement name reason) ∧
    throughSlots object = (ofWire object).mapError Slots.Fault.refused ∧
    MalformedReason.unknownField.message = "unknown field" ∧
    (∀ identifier fault, ∃ rest, (MalformedReason.coreKeys identifier fault).message =
      identifier ++ ": " ++ rest) ∧
    ∀ signer fault, ∃ rest, (MalformedReason.signature signer fault).message =
      signer ++ ": " ++ rest :=
  ⟨exists_ofWire_eq_ok_iff, fun _ => ofWire_eq_error_iff, throughSlots_eq object, rfl,
    message_startsWith_key⟩

end TrustRoot.Document
