import TrustRoot.Proofs.Approval.Rotation
import TrustRoot.Proofs.Document.Coverage

/-!
# What the decision depends on

Of a candidate the decision sees what signatures cover and the signatures, and of a predecessor the
numbers that are compared and the online keys.  The fields of the candidate that are compared are
read from the document itself, but the signing input determines them.  Two runs that agree in this
leave the same trail, with the same tally or the same error.
-/

namespace TrustRoot

/-- Agreement of two predecessors in everything that is held against a candidate. -/
structure SameAuthority (first second : Document) : Prop where
  isd : first.isd = second.isd
  version : first.version = second.version
  creationTime : first.creationTime = second.creationTime
  quarantine : first.quarantine = second.quarantine
  quorumOwnTrc : first.quorumOwnTrc = second.quorumOwnTrc
  onlineKeys : first.coreAses.map CoreKeys.onlineKey = second.coreAses.map CoreKeys.onlineKey

/-- The fields of a candidate that are compared are covered by its signatures. -/
theorem Document.SameSigned.compared {candidate candidate' : Document}
    (covered : SameSigned candidate candidate') :
    candidate.isd = candidate'.isd ∧ candidate.version = candidate'.version ∧
      candidate.creationTime = candidate'.creationTime ∧
      candidate.quarantine = candidate'.quarantine :=
  ⟨covered .isd (by decide), covered .version (by decide), covered .creationTime (by decide),
    covered .quarantine (by decide)⟩

namespace Quorum

variable {Key : Type}

/-- A signature is judged by the online key of its signer alone. -/
theorem standing_congr (scheme : SignatureScheme Key) {reference reference' : Document}
    (keys : reference.coreAses.map CoreKeys.onlineKey =
      reference'.coreAses.map CoreKeys.onlineKey)
    (payload : Bytes) (signer : String) (signature : Bytes) :
    standing scheme reference payload signer signature =
      standing scheme reference' payload signer signature := by
  have same := congrArg (fun dict => dict.get? signer) keys
  simp only [Dict.get?_map] at same
  unfold standing
  cases held : reference.coreAses.get? signer with
  | none =>
      rw [held, Option.map_none, eq_comm, Option.map_eq_none_iff] at same
      rw [same]
  | some record =>
      rw [held, Option.map_some, eq_comm, Option.map_eq_some_iff] at same
      obtain ⟨record', held', sameKey⟩ := same
      rw [held']
      simp only [sameKey]

theorem tally_congr (scheme : SignatureScheme Key)
    {candidate candidate' reference reference' : Document}
    (signed : candidate.signingInput false = candidate'.signingInput false)
    (signatures : candidate.signatures = candidate'.signatures)
    (authority : SameAuthority reference reference') :
    tally scheme candidate reference = tally scheme candidate' reference' := by
  obtain ⟨isd, version, -, -⟩ := (Document.signingInput_false_eq_iff.mp signed).compared
  have counted (payload : Bytes) : standings scheme candidate reference payload =
      standings scheme candidate' reference' payload := by
    simp only [standings, signatures, standing_congr scheme authority.onlineKeys]
  -- The events name the domain and the version, which the signing input determines.
  simp only [tally, foreignEvents, signed, isd, version, counted, authority.quorumOwnTrc]

theorem verify_congr (scheme : SignatureScheme Key)
    {candidate candidate' reference reference' : Document}
    (signed : candidate.signingInput false = candidate'.signingInput false)
    (signatures : candidate.signatures = candidate'.signatures)
    (authority : SameAuthority reference reference') :
    verify scheme candidate reference = verify scheme candidate' reference' := by
  obtain ⟨isd, version, -, -⟩ := (Document.signingInput_false_eq_iff.mp signed).compared
  simp only [verify, tally_congr scheme signed signatures authority, isd, version]

end Quorum

namespace Rotation

theorem checkTransition_congr {previous previous' candidate candidate' : Document}
    (covered : Document.SameSigned candidate candidate')
    (authority : SameAuthority previous previous') :
    checkTransition previous candidate = checkTransition previous' candidate' := by
  obtain ⟨isd, version, creationTime, quarantine⟩ := covered.compared
  simp only [checkTransition, isd, version, creationTime, quarantine, authority.isd,
    authority.version, authority.creationTime, authority.quarantine]

/-- Candidates with one signing input and the same signatures fare alike with predecessors of the
same authority: the events and the tally or the error are the same. -/
theorem verify_depends_on_signed {Key : Type} (scheme : SignatureScheme Key)
    {previous previous' candidate candidate' : Document}
    (signed : candidate.signingInput false = candidate'.signingInput false)
    (signatures : candidate.signatures = candidate'.signatures)
    (authority : SameAuthority previous previous') :
    verify scheme previous candidate = verify scheme previous' candidate' := by
  have covered := Document.signingInput_false_eq_iff.mp signed
  obtain ⟨isd, version, -, -⟩ := covered.compared
  simp only [verify, checkTransition_congr covered authority,
    Quorum.verify_congr scheme signed signatures authority, isd, version, authority.isd,
    authority.version]

/-- A candidate with one core system. -/
def candidateSample : Document where
  isd := 3
  description := "next"
  version := 5
  creationTime := 90
  coreAses := .ofList [("3-7", ⟨"ed25519", [1], "ed25519", [2]⟩)]
  rootCas := .ofList [("Bank", .string "cert"), ("Count", .number (.natural 4))]
  pkiLogs := .empty
  quorumEepki := 1
  rootRainsKey := [5]
  quorumOwnTrc := 1
  quorumCas := 1
  quarantine := false
  gracePeriod := 9
  signatures := .ofList [("3-7", [8, 8])]

/-- The candidate with the keys of an intruder, and without the entry that is no text. -/
def forgedSample : Document :=
  { candidateSample with
    coreAses := .ofList [("3-7", ⟨"none", [66], "none", []⟩)]
    rootCas := .ofList [("Bank", .string "cert")] }

def previousSample : Document :=
  { candidateSample with version := 4, signatures := .empty }

/-- The predecessor with other offline keys and names. -/
def renamedSample : Document :=
  { previousSample with
    description := "last"
    coreAses := .ofList [("3-7", ⟨"ED25519", [1], "", []⟩)] }

theorem verify_depends_on_signed_sample :
    candidateSample.signingInput false = forgedSample.signingInput false ∧
    candidateSample.signatures = forgedSample.signatures ∧
    SameAuthority previousSample renamedSample ∧
    verify .ed25519 previousSample candidateSample =
      verify .ed25519 renamedSample forgedSample := by
  have covered : Document.SameSigned candidateSample forgedSample := by
    intro field different
    cases field with
    | rootCas =>
        intro key text
        rw [candidateSample, forgedSample, Dict.get?_ofList_eq_some_iff (by decide),
          Dict.get?_ofList_eq_some_iff (by decide)]
        simp
    | pkiLogs => exact fun _ _ => Iff.rfl
    | coreAses => trivial
    | _ => rfl
  have signed := Document.signingInput_false_eq_iff.mpr covered
  have authority : SameAuthority previousSample renamedSample :=
    ⟨rfl, rfl, rfl, rfl, rfl, rfl⟩
  exact ⟨signed, rfl, authority, verify_depends_on_signed .ed25519 signed rfl authority⟩

end Rotation

end TrustRoot
