import TrustRoot.Document.Projection
import TrustRoot.Proofs.Dict

/-!
# Projected fields

The projected object has exactly one member for every projected field, under the name of the field.
Different fields have different names, so the members are found by field, and they are determined
by the values of the fields.
-/

namespace TrustRoot.Document

theorem mem_projectedFields {includeSignatures : Bool} {field : Field} :
    field ∈ projectedFields includeSignatures ↔
      includeSignatures = true ∨ field ≠ .signatures := by
  simp [projectedFields, Field.mem_all]

theorem nodup_names (includeSignatures : Bool) :
    ((projectedFields includeSignatures).map Field.name).Nodup := by
  cases includeSignatures <;> decide

/-- The members of an object made of fields are those fields. -/
theorem get?_ofList_fields_eq_some_iff {includeSignatures : Bool} (value : Field → Json)
    {name : String} {held : Json} :
    (Dict.ofList ((projectedFields includeSignatures).map fun field =>
      (field.name, value field))).get? name = some held ↔
      ∃ field ∈ projectedFields includeSignatures, field.name = name ∧ value field = held := by
  have different : (((projectedFields includeSignatures).map fun field =>
      (field.name, value field)).map Prod.fst).Nodup := by
    rw [List.map_map]
    exact nodup_names includeSignatures
  rw [Dict.get?_ofList_eq_some_iff different]
  simp

/-- The members of the projected object are the projected fields. -/
theorem get?_projectFields_eq_some_iff {document : Document} {includeSignatures : Bool}
    {name : String} {value : Json} :
    (document.projectFields includeSignatures).get? name = some value ↔
      ∃ field ∈ projectedFields includeSignatures,
        field.name = name ∧ document.project field = value :=
  get?_ofList_fields_eq_some_iff document.project

theorem get?_projectFields {document : Document} {includeSignatures : Bool} {field : Field}
    (projected : field ∈ projectedFields includeSignatures) :
    (document.projectFields includeSignatures).get? field.name = some (document.project field) :=
  get?_projectFields_eq_some_iff.mpr ⟨field, projected, rfl, rfl⟩

theorem exists_field_of_mem_projectFields {document : Document} {includeSignatures : Bool}
    {member : String × Json}
    (listed : member ∈ (document.projectFields includeSignatures).entries) :
    ∃ field ∈ projectedFields includeSignatures,
      field.name = member.1 ∧ document.project field = member.2 :=
  get?_projectFields_eq_some_iff.mp (Dict.get?_eq_some_iff.mpr listed)

end TrustRoot.Document
