import TrustRoot.Proofs.Document.Reachable
import TrustRoot.Proofs.Json.Writing

/-!
# Packing and unpacking

The text of a document is read as that document, as long as its free maps hold integers only and it
is no deeper than reading goes (`ofText_text`).  An envelope changes nothing about this if the codec
carries the text.
-/

namespace TrustRoot

/-- What is closed in and opened again is the same octets. -/
def PayloadCodec.Carries (codec : PayloadCodec) (content : Bytes) : Prop :=
  ∃ envelope, codec.compress content = .ok envelope ∧ codec.decompress envelope = .ok content

namespace Document

/-- The text of a document determines it. -/
structure Readable (document : Document) : Prop where
  rootCas : (Json.ofDict document.rootCas).IntegersOnly
  pkiLogs : (Json.ofDict document.pkiLogs).IntegersOnly
  shallow : (Json.ofDict (document.projectFields true)).depth ≤ Json.depthLimit

theorem depth_project_le {document : Document} (readable : document.Readable) (field : Field) :
    (document.project field).depth ≤ 126 := by
  have inside := Json.membersDepth_le_iff.mp (Nat.le_of_succ_le_succ readable.shallow)
  have projected : field ∈ projectedFields true := mem_projectedFields.mpr (.inl rfl)
  exact inside (field.name, document.project field)
    (Dict.get?_eq_some_iff.mp (get?_projectFields projected))

theorem restorable_coreKeys (keys : CoreKeys) : keys.toJson.Restorable 1 := by
  apply Json.restorable_object
  · have names : ["OfflineKey", "OfflineKeyAlg", "OnlineKey", "OnlineKeyAlg"].Pairwise
        (· < ·) := by decide
    exact keysAscend_iff_keys.mpr names
  · intro member listed
    simp only [List.mem_cons, List.not_mem_nil, or_false] at listed
    rcases listed with rfl | rfl | rfl | rfl <;> exact Json.restorable_string 0 _

/-- Whatever a document holds, all but its free maps is restored. -/
theorem restorable_project_of_ne (document : Document) {field : Field} (notRoots : field ≠ .rootCas)
    (notLogs : field ≠ .pkiLogs) : (document.project field).Restorable 126 := by
  cases field with
  | isd | version | creationTime | quorumEepki | quorumOwnTrc | quorumCas | gracePeriod =>
      exact Json.restorable_natural 126 _
  | description | rootRainsKey => exact Json.restorable_string 126 _
  | quarantine => exact Json.restorable_bool 126 _
  | coreAses =>
      apply Json.restorable_object (Dict.ascending _)
      intro member listed
      obtain ⟨entry, -, rfl⟩ := List.mem_map.mp listed
      exact (restorable_coreKeys entry.2).mono (by decide)
  | rootCas => exact absurd rfl notRoots
  | pkiLogs => exact absurd rfl notLogs
  | signatures =>
      apply Json.restorable_object (Dict.ascending _)
      intro member listed
      obtain ⟨entry, -, rfl⟩ := List.mem_map.mp listed
      exact Json.restorable_string _ _

theorem restorable_project {document : Document} (sound : document.Sound)
    (readable : document.Readable) (field : Field) :
    (document.project field).Restorable 126 := by
  have depth := depth_project_le readable field
  by_cases roots : field = .rootCas
  · subst roots
    exact ⟨sound.rootCas, readable.rootCas, depth⟩
  by_cases logs : field = .pkiLogs
  · subst logs
    exact ⟨sound.pkiLogs, readable.pkiLogs, depth⟩
  exact restorable_project_of_ne document roots logs

theorem restorable_projectFields {document : Document} (sound : document.Sound)
    (readable : document.Readable) :
    (Json.ofDict (document.projectFields true)).Restorable Json.depthLimit := by
  apply Json.restorable_object (Dict.ascending _)
  intro member listed
  obtain ⟨field, -, -, value⟩ := exists_field_of_mem_projectFields listed
  rw [← value]
  exact restorable_project sound readable field

/-- The text of a document is read as the document. -/
theorem ofText_text {document : Document} (sound : document.Sound)
    (readable : document.Readable) :
    ofText (Bytes.ofText (document.text true)) = .ok document := by
  have parsed := Json.parse_render .indented (restorable_projectFields sound readable)
  rw [ofText, text, parsed]
  change ofWire (.ofList (document.projectFields true).entries) = .ok document
  rw [Dict.ofList_entries]
  exact ofWire_projectFields sound.valid

/-- What is packed unpacks to the octets of the text. -/
theorem unwrap_pack {codec : PayloadCodec} {compress : Bool} {document : Document}
    (carried : compress = true → codec.Carries (Bytes.ofText (document.text true))) :
    ∃ packed, document.pack codec compress = .ok packed ∧
      unwrap codec compress packed = .ok (Bytes.ofText (document.text true)) := by
  cases compress with
  | false => exact ⟨_, rfl, rfl⟩
  | true =>
      obtain ⟨envelope, closed, opened⟩ := carried rfl
      refine ⟨envelope, ?_, ?_⟩
      · rw [pack]
        change (codec.compress _).mapError _ = _
        rw [closed]
        rfl
      · change (codec.decompress envelope).mapError _ = _
        rw [opened]
        rfl

/-- Reading what a document was packed into gives the document. -/
theorem ofRaw_pack {document : Document} (reachable : document.Reachable)
    (readable : document.Readable) (codec : PayloadCodec) (compress : Bool)
    (carried : compress = true → codec.Carries (Bytes.ofText (document.text true))) :
    ∃ packed, document.pack codec compress = .ok packed ∧
      (ofRaw codec compress packed).result = .ok document := by
  obtain ⟨packed, done, unwrapped⟩ := unwrap_pack carried
  refine ⟨packed, done, ofRaw_eq_ok_iff.mpr ⟨_, unwrapped, ?_⟩⟩
  exact ofText_text reachable.sound readable

/-- What the author of an announcement with one core system chooses. -/
def sampleValues : Values where
  isd := 1
  description := "An \"early\" announcement"
  version := 7
  coreAses := .ofList [("1-1", ⟨"ed25519", [1, 2, 3], "ed25519", [4]⟩)]
  rootCas := .ofList [("CA", .array [.number (.negative 4), .bool true, .string "é\n"])]
  pkiLogs := .ofList [("Log", .object [])]
  quorumEepki := 0
  rootRainsKey := [255, 0]
  quorumOwnTrc := 1
  quorumCas := 1
  quarantine := true
  gracePeriod := 60
  signatures := .ofList [("1-1", [9, 9])]

def sample : Document :=
  { sampleValues with creationTime := 18446744073709551615 }

theorem reachable_sample : sample.Reachable := by
  have built : Document.ofValues sampleValues 18446744073709551615 = .ok sample :=
    check_eq_ok_iff.mpr ⟨rfl, by decide, by decide, by decide, by decide, by decide⟩
  refine .ofValues ⟨Dict.ascending _, ?_⟩ ⟨Dict.ascending _, ?_⟩ built
  · exact ⟨⟨trivial, trivial, trivial, trivial⟩, trivial⟩
  · exact ⟨⟨.nil, trivial⟩, trivial⟩

theorem readable_sample : sample.Readable := by
  refine ⟨⟨⟨trivial, trivial, trivial, trivial⟩, trivial⟩, ⟨trivial, trivial⟩, ?_⟩
  decide

theorem ofRaw_pack_sample : sample.Reachable ∧ sample.Readable ∧
    (true = true → PayloadCodec.plain.Carries (Bytes.ofText (sample.text true))) ∧
    ∃ packed, sample.pack .plain true = .ok packed ∧
      (ofRaw .plain true packed).result = .ok sample := by
  have carried := PayloadCodec.plain_lossless (Bytes.ofText (sample.text true))
  exact ⟨reachable_sample, readable_sample, fun _ => carried,
    ofRaw_pack reachable_sample readable_sample .plain true fun _ => carried⟩

end Document

end TrustRoot
