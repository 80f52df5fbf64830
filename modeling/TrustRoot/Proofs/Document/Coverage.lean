import TrustRoot.Document.SigningInput
import TrustRoot.Proofs.Audit
import TrustRoot.Proofs.Document.Projection
import TrustRoot.Proofs.Json.Writing
import TrustRoot.Proofs.Text.Base64

/-!
# What signatures cover

The signing input of a document always exists, and it determines the object that is written in it.
So two documents have one signing input exactly if they agree field by field in what that object
keeps: the textual members of the root certificates and the logs, nothing of the core systems, and
the other fields as they are.
-/

namespace TrustRoot

theorem textAsBase64_injective {first second : String}
    (same : textAsBase64 first = textAsBase64 second) : first = second :=
  Bytes.ofText_injective (Base64.encodeText_injective (Json.string.inj same))

/-! ## Textual members -/

theorem textualMember?_eq_some_iff {member : String × Json} {key : String} {value : Json} :
    textualMember? member = some (key, value) ↔
      ∃ text, value = textAsBase64 text ∧ member = (key, .string text) := by
  obtain ⟨name, held⟩ := member
  constructor
  · intro found
    cases held with
    | string text =>
        cases found
        exact ⟨text, rfl, rfl⟩
    | _ => cases found
  · rintro ⟨text, rfl, whole⟩
    cases whole
    rfl

theorem mem_textualMembers {members : List (String × Json)} {key : String} {value : Json} :
    (key, value) ∈ members.filterMap textualMember? ↔
      ∃ text, value = textAsBase64 text ∧ (key, .string text) ∈ members := by
  simp only [List.mem_filterMap, textualMember?_eq_some_iff]
  constructor
  · rintro ⟨member, listed, text, rfl, rfl⟩
    exact ⟨text, rfl, listed⟩
  · rintro ⟨text, rfl, listed⟩
    exact ⟨_, listed, text, rfl, rfl⟩

theorem keysAscend_textualMembers {members : List (String × Json)}
    (ascending : KeysAscend members) : KeysAscend (members.filterMap textualMember?) := by
  refine List.Pairwise.filterMap _ ?_ ascending
  intro first second below member found member' found'
  obtain ⟨text, -, rfl⟩ := textualMember?_eq_some_iff.mp found
  obtain ⟨text', -, rfl⟩ := textualMember?_eq_some_iff.mp found'
  exact below

/-- Dictionaries have the same texts as Base64 exactly if they have the same texts. -/
theorem textualMembers_eq_iff {first second : Dict Json} :
    first.entries.filterMap textualMember? = second.entries.filterMap textualMember? ↔
      ∀ key text, first.get? key = some (.string text) ↔ second.get? key = some (.string text) := by
  simp only [Dict.get?_eq_some_iff]
  constructor
  · intro same key text
    have transfer {members members' : List (String × Json)}
        (same : members.filterMap textualMember? = members'.filterMap textualMember?)
        (listed : (key, .string text) ∈ members) : (key, .string text) ∈ members' := by
      have kept : (key, textAsBase64 text) ∈ members.filterMap textualMember? :=
        mem_textualMembers.mpr ⟨text, rfl, listed⟩
      rw [same] at kept
      obtain ⟨text', sameText, listed'⟩ := mem_textualMembers.mp kept
      rwa [textAsBase64_injective sameText]
    exact ⟨transfer same, transfer same.symm⟩
  · intro agree
    have ascending := keysAscend_textualMembers first.ascending
    have ascending' := keysAscend_textualMembers second.ascending
    apply ascending.eq_of_findEntry ascending'
    intro key
    apply Option.ext
    intro value
    rw [findEntry_eq_some_iff ascending.nodup_keys, findEntry_eq_some_iff ascending'.nodup_keys,
      mem_textualMembers, mem_textualMembers]
    simp only [agree]

namespace Document

/-! ## The object that is written -/

/-- The value of a field of a document in the signing input. -/
def covered (document : Document) (field : Field) : Json :=
  field.canonicalValue (document.project field)

/-- The object whose text is signed. -/
def coveredFields (document : Document) (includeSignatures : Bool) : Dict Json :=
  (document.projectFields includeSignatures).mapKeyed canonicalMember

theorem accepts_project (document : Document) (field : Field) :
    field.kind.accepts (document.project field) = true := by
  cases field <;> rfl

theorem checkProjected_of_mem {document : Document} {includeSignatures : Bool}
    {member : String × Json}
    (listed : member ∈ (document.projectFields includeSignatures).entries) :
    checkProjected member.1 member.2 = .ok () := by
  obtain ⟨field, -, name, value⟩ := exists_field_of_mem_projectFields listed
  rw [← name, ← value, checkProjected, Field.ofName?_name]
  exact if_pos (accepts_project document field)

/-- Projected fields always pass, so there is always a signing input. -/
theorem signingInput_eq (document : Document) (includeSignatures : Bool) :
    document.signingInput includeSignatures =
      .ok (Bytes.ofText ((Json.ofDict (document.coveredFields includeSignatures)).render
        .ascii)) := by
  rw [signingInput, encodeFields, canonicalFields,
    forM_eq_ok_iff.mpr fun _ => checkProjected_of_mem]
  rfl

theorem canonicalMember_name (field : Field) (value : Json) :
    canonicalMember field.name value = field.canonicalValue value := by
  rw [canonicalMember, Field.ofName?_name]

theorem get?_coveredFields_eq_some_iff {document : Document} {includeSignatures : Bool}
    {name : String} {value : Json} :
    (document.coveredFields includeSignatures).get? name = some value ↔
      ∃ field ∈ projectedFields includeSignatures,
        field.name = name ∧ document.covered field = value := by
  simp only [coveredFields, Dict.get?_mapKeyed, Option.map_eq_some_iff,
    get?_projectFields_eq_some_iff]
  constructor
  · rintro ⟨_, ⟨field, projected, rfl, rfl⟩, rfl⟩
    exact ⟨field, projected, rfl, (canonicalMember_name _ _).symm⟩
  · rintro ⟨field, projected, rfl, rfl⟩
    exact ⟨_, ⟨field, projected, rfl, rfl⟩, canonicalMember_name _ _⟩

/-- The object is determined by its fields. -/
theorem coveredFields_eq_iff {first second : Document} {includeSignatures : Bool} :
    first.coveredFields includeSignatures = second.coveredFields includeSignatures ↔
      ∀ field ∈ projectedFields includeSignatures, first.covered field = second.covered field := by
  constructor
  · intro same field projected
    have found : (first.coveredFields includeSignatures).get? field.name =
        some (first.covered field) :=
      get?_coveredFields_eq_some_iff.mpr ⟨field, projected, rfl, rfl⟩
    rw [same] at found
    obtain ⟨field', -, name, value⟩ := get?_coveredFields_eq_some_iff.mp found
    rw [← value, Field.name_injective name]
  · intro agree
    ext name value
    simp only [get?_coveredFields_eq_some_iff]
    constructor
    · rintro ⟨field, projected, rfl, rfl⟩
      exact ⟨field, projected, rfl, (agree field projected).symm⟩
    · rintro ⟨field, projected, rfl, rfl⟩
      exact ⟨field, projected, rfl, agree field projected⟩

/-! ## The text of the object -/

theorem restorable_covered (document : Document) (field : Field) :
    (document.covered field).Restorable 1 := by
  have textual (members : Dict Json) :
      (Json.object (members.entries.filterMap textualMember?)).Restorable 1 := by
    apply Json.restorable_object (keysAscend_textualMembers members.ascending)
    rintro ⟨key, value⟩ listed
    obtain ⟨text, rfl, -⟩ := mem_textualMembers.mp listed
    exact Json.restorable_string 0 _
  cases field with
  | isd | version | creationTime | quorumEepki | quorumOwnTrc | quorumCas | gracePeriod =>
      exact Json.restorable_natural 1 _
  | description | rootRainsKey => exact Json.restorable_string 1 _
  | quarantine => exact Json.restorable_bool 1 _
  | coreAses => exact textual (document.coreAses.map CoreKeys.toJson)
  | rootCas => exact textual document.rootCas
  | pkiLogs => exact textual document.pkiLogs
  | signatures =>
      apply Json.restorable_object (Dict.ascending _)
      intro member listed
      obtain ⟨entry, -, rfl⟩ := List.mem_map.mp listed
      exact Json.restorable_string 0 _

theorem restorable_coveredFields (document : Document) (includeSignatures : Bool) :
    (Json.ofDict (document.coveredFields includeSignatures)).Restorable 2 := by
  apply Json.restorable_object (Dict.ascending _)
  intro member listed
  obtain ⟨field, -, -, value⟩ :=
    get?_coveredFields_eq_some_iff.mp (Dict.get?_eq_some_iff.mpr listed)
  rw [← value]
  exact restorable_covered document field

/-- One signing input comes from one object. -/
theorem signingInput_eq_iff {first second : Document} {includeSignatures : Bool} :
    first.signingInput includeSignatures = second.signingInput includeSignatures ↔
      ∀ field ∈ projectedFields includeSignatures, first.covered field = second.covered field := by
  rw [← coveredFields_eq_iff, signingInput_eq, signingInput_eq]
  constructor
  · intro same
    have text := Bytes.ofText_injective (Except.ok.inj same)
    have object := Json.render_injective .ascii
      ((restorable_coveredFields first includeSignatures).mono (by decide))
      ((restorable_coveredFields second includeSignatures).mono (by decide)) text
    exact Json.ofDict_injective object
  · intro same
    rw [same]

/-! ## Agreement -/

/-- Agreement of two documents in what signatures cover of a field. -/
def AgreeOn (first second : Document) : Field → Prop
  | .isd => first.isd = second.isd
  | .description => first.description = second.description
  | .version => first.version = second.version
  | .creationTime => first.creationTime = second.creationTime
  | .coreAses => True
  | .rootCas =>
    ∀ key text, first.rootCas.get? key = some (.string text) ↔
      second.rootCas.get? key = some (.string text)
  | .pkiLogs =>
    ∀ key text, first.pkiLogs.get? key = some (.string text) ↔
      second.pkiLogs.get? key = some (.string text)
  | .quorumEepki => first.quorumEepki = second.quorumEepki
  | .rootRainsKey => first.rootRainsKey = second.rootRainsKey
  | .quorumOwnTrc => first.quorumOwnTrc = second.quorumOwnTrc
  | .quorumCas => first.quorumCas = second.quorumCas
  | .quarantine => first.quarantine = second.quarantine
  | .signatures => first.signatures = second.signatures
  | .gracePeriod => first.gracePeriod = second.gracePeriod

theorem natural_eq_iff {first second : UInt64} :
    Json.natural first = Json.natural second ↔ first = second := by
  simp [Json.natural]

theorem octets_eq_iff {first second : Bytes} :
    Json.string (Base64.encodeText first) = .string (Base64.encodeText second) ↔
      first = second := by
  constructor
  · intro same
    exact Base64.encodeText_injective (Json.string.inj same)
  · intro same
    rw [same]

theorem signaturesJson_eq_iff {first second : Dict Bytes} :
    signaturesJson first = signaturesJson second ↔ first = second := by
  constructor
  · intro same
    exact Dict.map_injective (fun _ _ => octets_eq_iff.mp) (Json.ofDict_injective same)
  · intro same
    rw [same]

theorem coreKeys_not_textual (coreAses : Dict CoreKeys) :
    (coreAses.map CoreKeys.toJson).entries.filterMap textualMember? = [] := by
  apply List.filterMap_eq_nil_iff.mpr
  intro member listed
  obtain ⟨entry, -, rfl⟩ := List.mem_map.mp listed
  rfl

theorem covered_eq_iff {first second : Document} (field : Field) :
    first.covered field = second.covered field ↔ AgreeOn first second field := by
  have objects {members members' : List (String × Json)} :
      Json.object members = .object members' ↔ members = members' := by simp
  cases field with
  | isd => exact natural_eq_iff.trans UInt16.toUInt64_inj
  | version | creationTime | gracePeriod => exact natural_eq_iff
  | quorumEepki | quorumOwnTrc | quorumCas => exact natural_eq_iff.trans UInt32.toUInt64_inj
  | description =>
      exact ⟨textAsBase64_injective, fun same => congrArg textAsBase64 same⟩
  | rootRainsKey => exact octets_eq_iff
  | quarantine => exact ⟨fun same => Json.bool.inj same, fun same => congrArg Json.bool same⟩
  | coreAses =>
      -- The record of a core system is an object, and objects are not textual.
      have nothing (coreAses : Dict CoreKeys) :=
        congrArg Json.object (coreKeys_not_textual coreAses)
      exact iff_true_intro ((nothing first.coreAses).trans (nothing second.coreAses).symm)
  | rootCas | pkiLogs => exact objects.trans textualMembers_eq_iff
  | signatures => exact signaturesJson_eq_iff

/-- Agreement of two documents in everything that signatures cover. -/
def SameSigned (first second : Document) : Prop :=
  ∀ field, field ≠ .signatures → AgreeOn first second field

theorem signingInput_false_eq_iff {first second : Document} :
    first.signingInput false = second.signingInput false ↔ SameSigned first second := by
  simp [signingInput_eq_iff, covered_eq_iff, mem_projectedFields, SameSigned]

theorem signingInput_true_eq_iff {first second : Document} :
    first.signingInput true = second.signingInput true ↔
      SameSigned first second ∧ first.signatures = second.signatures := by
  simp only [signingInput_eq_iff, covered_eq_iff, mem_projectedFields, true_or, true_implies]
  constructor
  · intro agree
    exact ⟨fun field _ => agree field, agree .signatures⟩
  · rintro ⟨agree, signatures⟩ field
    by_cases isSignatures : field = .signatures
    · rw [isSignatures]
      exact signatures
    · exact agree field isSignatures

/-- Documents always have signing inputs.  Without signatures the inputs of two documents are the
same octets exactly if the documents agree in what signatures cover, and with signatures exactly if
the signatures agree as well. -/
theorem signingInput_covers (first second : Document) :
    ∃ octets octets' whole whole' : Bytes,
      first.signingInput false = .ok octets ∧ second.signingInput false = .ok octets' ∧
      first.signingInput true = .ok whole ∧ second.signingInput true = .ok whole' ∧
      (octets = octets' ↔ SameSigned first second) ∧
      (whole = whole' ↔ SameSigned first second ∧ first.signatures = second.signatures) := by
  refine ⟨_, _, _, _, signingInput_eq first false, signingInput_eq second false,
    signingInput_eq first true, signingInput_eq second true, ?_, ?_⟩
  · rw [← signingInput_false_eq_iff, signingInput_eq, signingInput_eq, Except.ok.injEq]
  · rw [← signingInput_true_eq_iff, signingInput_eq, signingInput_eq, Except.ok.injEq]

end Document

end TrustRoot
