import TrustRoot.Proofs.Document.RoundTrip
import TrustRoot.Proofs.Json.Refusal

/-!
# Independence of representation

What is read from a text depends on the tree that the text writes, up to the order of members.
Blanks, the order of members at every level and the way in which characters are escaped make no
difference: either no such text is read, or all of them are read as one document.
-/

namespace TrustRoot

open Json (IsTextOf Tree)

namespace Document

/-- What is read from an input is what is read from the text in it. -/
theorem result_ofRaw {codec : PayloadCodec} {compressed : Bool} {raw text : Bytes}
    (opened : unwrap codec compressed raw = .ok text) :
    (ofRaw codec compressed raw).result = ofText text := by
  rw [result_ofRaw_eq_bind, opened]
  rfl

/-- Two texts of one tree are read alike. -/
theorem ofText_agree {tree : Tree} (distinct : tree.Distinct) {text text' : Bytes}
    (isText : IsTextOf text tree) (isText' : IsTextOf text' tree) :
    ofText text = ofText text' ∨
      (∃ error, ofText text = .error error) ∧ ∃ error, ofText text' = .error error := by
  cases stands : tree.value? with
  | some value =>
      left
      rw [ofText, ofText, Json.parse_of_isTextOf isText distinct stands,
        Json.parse_of_isTextOf isText' distinct stands]
  | none =>
      right
      obtain ⟨report, refused⟩ := Json.exists_parse_eq_error isText distinct stands
      obtain ⟨report', refused'⟩ := Json.exists_parse_eq_error isText' distinct stands
      rw [ofText, ofText, refused, refused']
      exact ⟨⟨_, rfl⟩, ⟨_, rfl⟩⟩

/-- Two texts of one tree with different names in every object, which may differ in the order of
members, in blanks and in escapes, are either both refused or read as equal documents, whose signing
inputs, texts and fingerprints are the same octets. -/
theorem ofRaw_depends_on_tree {tree : Tree} (distinct : tree.Distinct) {text text' : Bytes}
    (isText : IsTextOf text tree) (isText' : IsTextOf text' tree) {codec codec' : PayloadCodec}
    {compressed compressed' : Bool} {raw raw' : Bytes}
    (opened : unwrap codec compressed raw = .ok text)
    (opened' : unwrap codec' compressed' raw' = .ok text') :
    ((∃ error, (ofRaw codec compressed raw).result = .error error) ∧
      ∃ error, (ofRaw codec' compressed' raw').result = .error error) ∨
    ∃ document document', (ofRaw codec compressed raw).result = .ok document ∧
      (ofRaw codec' compressed' raw').result = .ok document' ∧ document = document' ∧
      (∀ includeSignatures,
        document.signingInput includeSignatures = document'.signingInput includeSignatures) ∧
      (∀ includeSignatures, document.text includeSignatures = document'.text includeSignatures) ∧
      document.fingerprint = document'.fingerprint := by
  rw [result_ofRaw opened, result_ofRaw opened']
  rcases ofText_agree distinct isText isText' with same | refused
  · rw [← same]
    cases ofText text with
    | error error => exact .inl ⟨⟨error, rfl⟩, ⟨error, rfl⟩⟩
    | ok document =>
        exact .inr ⟨document, document, rfl, rfl, rfl, fun _ => rfl, fun _ => rfl, rfl⟩
  · exact .inl refused

/-- An object may be written with its members in any order. -/
theorem isTextOf_render_perm (layout : Json.Layout) {listed members : List (String × Json)}
    (perm : listed.Perm members) (restorable : (Json.object members).Restorable Json.depthLimit) :
    IsTextOf (Bytes.ofText ((Json.object listed).render layout)) (Json.object members).tree := by
  have integers : (Json.object listed).IntegersOnly := Json.membersIntegersOnly_iff.mpr
    fun member inText =>
      Json.membersIntegersOnly_iff.mp restorable.integers member (perm.mem_iff.mp inText)
  have shallow : (Json.object listed).depth ≤ Json.depthLimit := by
    have below : Json.membersDepth members ≤ 126 := Nat.le_of_succ_le_succ restorable.shallow
    have belowListed : Json.membersDepth listed ≤ 126 := Json.membersDepth_le_iff.mpr
      fun member inText => Json.membersDepth_le_iff.mp below member (perm.mem_iff.mp inText)
    exact Nat.succ_le_succ belowListed
  have trees : (Json.membersTrees listed).Perm (Json.membersTrees members) := by
    rw [Json.membersTrees_eq_map, Json.membersTrees_eq_map]
    exact perm.map _
  exact (Json.isTextOf_render layout integers shallow).rearrange trees

/-- The members of the sample from the last name to the first. -/
def sampleDescending : Json :=
  .object (sample.projectFields true).entries.reverse

/-- The sample is read from its own text, which is indented, and from a text on one line in ASCII
with its members the other way round. -/
theorem ofRaw_depends_on_tree_sample :
    let tree := (Json.ofDict (sample.projectFields true)).tree
    let text := Bytes.ofText (sample.text true)
    let text' := Bytes.ofText (sampleDescending.render .ascii)
    tree.Distinct ∧ IsTextOf text tree ∧ IsTextOf text' tree ∧ text ≠ text' ∧
      unwrap .plain true text = .ok text ∧ unwrap .plain false text' = .ok text' ∧
      (ofRaw .plain true text).result = .ok sample ∧
      (ofRaw .plain false text').result = .ok sample := by
  intro tree text text'
  have restorable := restorable_projectFields reachable_sample.sound readable_sample
  have distinct : tree.Distinct := Json.distinct_tree restorable.ordered
  have isText : IsTextOf text tree :=
    Json.isTextOf_render .indented restorable.integers restorable.shallow
  have isText' : IsTextOf text' tree :=
    isTextOf_render_perm .ascii (List.reverse_perm _) restorable
  have different : text ≠ text' := by decide +kernel
  have opened : unwrap .plain true text = .ok text := rfl
  have opened' : unwrap .plain false text' = .ok text' := rfl
  have read : (ofRaw .plain true text).result = .ok sample := by
    rw [result_ofRaw opened]
    exact ofText_text reachable_sample.sound readable_sample
  refine ⟨distinct, isText, isText', different, opened, opened', read, ?_⟩
  rcases ofRaw_depends_on_tree distinct isText isText' opened opened' with
    ⟨⟨error, refused⟩, -⟩ | ⟨document, document', found, found', same, -⟩
  · rw [read] at refused
    cases refused
  · rw [read] at found
    cases found
    rw [found', same]

end Document

end TrustRoot
