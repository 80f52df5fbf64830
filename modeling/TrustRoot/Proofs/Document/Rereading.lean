import TrustRoot.Proofs.Document.RoundTrip
import TrustRoot.Proofs.Json.Extent

/-!
# Reading again what was read and signed

A document that was read is no deeper than reading goes, and a signature does not change that.  So
its text is read again, with or without more signatures, if its free maps hold integers only
(`ofText_text_addSignature`).  With a new signer the text is longer than before
(`length_text_lt_addSignature`).
-/

namespace TrustRoot.Document

/-! ## Depth -/

theorem depth_maps_of_ofText {text : Bytes} {document : Document}
    (read : ofText text = .ok document) :
    (Json.ofDict document.rootCas).depth ≤ 126 ∧ (Json.ofDict document.pkiLogs).depth ≤ 126 := by
  obtain ⟨object, parsed, ordered, read⟩ := exists_object_of_ofText read
  obtain ⟨rootCas, pkiLogs⟩ := get?_maps_of_ofWire ordered read
  have inside := Json.membersDepth_le_iff.mp (Nat.le_of_succ_le_succ (Json.depth_of_parse parsed))
  exact ⟨inside _ (Dict.get?_eq_some_iff.mp rootCas), inside _ (Dict.get?_eq_some_iff.mp pkiLogs)⟩

/-- The free maps alone decide whether a document is readable. -/
theorem readable_of_maps {document : Document}
    (rootCas : (Json.ofDict document.rootCas).IntegersOnly)
    (pkiLogs : (Json.ofDict document.pkiLogs).IntegersOnly)
    (rootCasDepth : (Json.ofDict document.rootCas).depth ≤ 126)
    (pkiLogsDepth : (Json.ofDict document.pkiLogs).depth ≤ 126) : document.Readable := by
  refine ⟨rootCas, pkiLogs, Nat.succ_le_succ (Json.membersDepth_le_iff.mpr ?_)⟩
  intro member listed
  obtain ⟨field, -, -, value⟩ := exists_field_of_mem_projectFields listed
  rw [← value]
  by_cases roots : field = .rootCas
  · subst roots
    exact rootCasDepth
  by_cases logs : field = .pkiLogs
  · subst logs
    exact pkiLogsDepth
  exact (restorable_project_of_ne document roots logs).shallow

/-! ## Documents with the same body -/

section Body

variable {document other : Document} (same : other.toBody = document.toBody)
include same

theorem project_of_toBody {field : Field} (unsigned : field ≠ .signatures) :
    other.project field = document.project field := by
  obtain ⟨body, signatures⟩ := document
  obtain ⟨body', signatures'⟩ := other
  obtain rfl : body' = body := same
  cases field with
  | signatures => exact absurd rfl unsigned
  | _ => rfl

/-- Other signatures replace one member of the projected object. -/
theorem projectFields_of_toBody :
    other.projectFields true =
      (document.projectFields true).insert Field.signatures.name (other.project .signatures) := by
  apply Dict.ext_get?
  intro name
  rw [Dict.get?_insert]
  split
  · rename_i isSignatures
    rw [isSignatures, get?_projectFields (mem_projectedFields.mpr (.inl rfl))]
  · rename_i unsigned
    apply Option.ext
    intro value
    have sameMember (field : Field) (named : field.name = name) :
        other.project field = document.project field := by
      apply project_of_toBody same
      rintro rfl
      exact unsigned named.symm
    rw [get?_projectFields_eq_some_iff, get?_projectFields_eq_some_iff]
    constructor
    · rintro ⟨field, projected, named, held⟩
      exact ⟨field, projected, named, (sameMember field named).symm.trans held⟩
    · rintro ⟨field, projected, named, held⟩
      exact ⟨field, projected, named, (sameMember field named).trans held⟩

/-- Texts of documents with the same body differ in length as their signatures do. -/
theorem length_text_of_toBody :
    (Bytes.ofText (other.text true)).length + (document.project .signatures).extent .indented 1 =
      (Bytes.ofText (document.text true)).length +
        (other.project .signatures).extent .indented 1 := by
  have held : (document.projectFields true).get? Field.signatures.name =
      some (document.project .signatures) :=
    get?_projectFields (mem_projectedFields.mpr (.inl rfl))
  rw [text, text, Json.length_ofText_render, Json.length_ofText_render,
    projectFields_of_toBody same]
  exact Json.extent_insert_of_held .indented 0 held _

end Body

/-! ## Signatures -/

section Signatures

variable (document : Document) (signer : String) (signature : Bytes)

theorem signaturesJson_insert (signatures : Dict Bytes) :
    signaturesJson (signatures.insert signer signature) =
      .ofDict ((signatures.map fun held => Json.string (Base64.encodeText held)).insert signer
        (.string (Base64.encodeText signature))) := by
  refine congrArg Json.ofDict (Dict.ext_get? fun key => ?_)
  rw [Dict.get?_map, Dict.get?_insert, Dict.get?_insert, Dict.get?_map]
  split <;> rfl

/-- With a new signer the text takes more room. -/
theorem length_text_lt_addSignature (new : document.signatures.get? signer = none) :
    (Bytes.ofText (document.text true)).length <
      (Bytes.ofText ((document.addSignature signer signature).text true)).length := by
  have absent : (document.signatures.map fun held =>
      Json.string (Base64.encodeText held)).get? signer = none := by
    rw [Dict.get?_map, new]
    rfl
  have longer : (document.project .signatures).extent .indented 1 <
      ((document.addSignature signer signature).project .signatures).extent .indented 1 := by
    change Json.extent _ _ (signaturesJson document.signatures) <
      Json.extent _ _ (signaturesJson (document.signatures.insert signer signature))
    rw [signaturesJson_insert]
    exact Json.extent_lt_insert_of_absent .indented 1 absent _
  have lengths := length_text_of_toBody (document.toBody_addSignature signer signature)
  omega

variable {document}

/-- What is read from a text is read from its own text too, whatever signatures it has then. -/
theorem ofText_text_of_toBody {text : Bytes} {other : Document}
    (read : ofText text = .ok document) (same : other.toBody = document.toBody)
    (rootCas : (Json.ofDict document.rootCas).IntegersOnly)
    (pkiLogs : (Json.ofDict document.pkiLogs).IntegersOnly) :
    ofText (Bytes.ofText (other.text true)) = .ok other := by
  obtain ⟨rootCasDepth, pkiLogsDepth⟩ := depth_maps_of_ofText read
  have sound := sound_of_ofText read
  obtain ⟨body, signatures⟩ := document
  obtain ⟨body', signatures'⟩ := other
  obtain rfl : body' = body := same
  have readable : Readable ⟨body', signatures'⟩ :=
    readable_of_maps rootCas pkiLogs rootCasDepth pkiLogsDepth
  exact ofText_text (sound.of_toBody rfl) readable

/-- What is read from a text and then signed is read from its own text. -/
theorem ofText_text_addSignature {text : Bytes} (read : ofText text = .ok document)
    (rootCas : (Json.ofDict document.rootCas).IntegersOnly)
    (pkiLogs : (Json.ofDict document.pkiLogs).IntegersOnly) :
    ofText (Bytes.ofText ((document.addSignature signer signature).text true)) =
      .ok (document.addSignature signer signature) :=
  ofText_text_of_toBody read rfl rootCas pkiLogs

end Signatures

end TrustRoot.Document
