import TrustRoot.Proofs.Approval.Authorities
import TrustRoot.Proofs.Document.Collection

/-!
# Signatures count one by one

What a signature is worth depends on its signer and on the document without the signatures, but on
no other signature.  Tallies of candidates that differ in one signature therefore differ at most in
its signer, and a candidate with more signatures has at least as many valid ones
(`tally_addSignature`).
-/

namespace TrustRoot

namespace Tally

/-- Two tallies list a signer in the same sets. -/
def AgreeOn (first second : Tally) (signer : String) : Prop :=
  (signer ∈ first.valid ↔ signer ∈ second.valid) ∧
    (signer ∈ first.rejected ↔ signer ∈ second.rejected) ∧
    (signer ∈ first.foreign ↔ signer ∈ second.foreign)

/-- The sets of a tally are determined by their members. -/
theorem signersWith_congr {test : Standing → Bool} {first second : List (String × Standing)}
    (same : ∀ signer, signer ∈ signersWith test first ↔ signer ∈ signersWith test second) :
    signersWith test first = signersWith test second :=
  nameSet_congr fun signer => mem_nameSet.symm.trans ((same signer).trans mem_nameSet)

end Tally

namespace Quorum

variable {Key : Type} {scheme : SignatureScheme Key} {candidate candidate' reference : Document}
  {payload : Bytes} {counted counted' : Tally}

theorem exists_divides (scheme : SignatureScheme Key) (reference : Document)
    (input : candidate.signingInput false = .ok payload) :
    ∃ counted, (tally scheme candidate reference).result = .ok counted ∧
      Divides scheme candidate reference payload counted :=
  ⟨_, tally_eq_ok_iff.mpr ⟨payload, input, rfl⟩,
    divides_collect scheme candidate reference payload⟩

theorem exists_divides_of_tally
    (tallied : (tally scheme candidate reference).result = .ok counted) :
    ∃ payload, candidate.signingInput false = .ok payload ∧
      Divides scheme candidate reference payload counted := by
  obtain ⟨payload, input, rfl⟩ := tally_eq_ok_iff.mp tallied
  exact ⟨payload, input, divides_collect scheme candidate reference payload⟩

theorem exists_verify_iff (tallied : (tally scheme candidate reference).result = .ok counted) :
    (∃ met, (verify scheme candidate reference).result = .ok met) ↔
      counted.required.toNat ≤ counted.valid.length := by
  rw [result_verify tallied]
  split <;> simp [*]

/-! ## One signer -/

theorem checks_congr {signer : String}
    (same : candidate'.signatures.get? signer = candidate.signatures.get? signer)
    {outcome : Except String Bool} :
    Checks scheme candidate' reference payload signer outcome ↔
      Checks scheme candidate reference payload signer outcome := by
  simp only [Checks, same]

/-- Tallies agree on a signer with the same signature. -/
theorem Divides.agreeOn (divides : Divides scheme candidate reference payload counted)
    (divides' : Divides scheme candidate' reference payload counted') {signer : String}
    (same : candidate'.signatures.get? signer = candidate.signatures.get? signer) :
    counted.AgreeOn counted' signer := by
  refine ⟨?_, ?_, ?_⟩
  · rw [divides.valid, divides'.valid, checks_congr same]
  · simp only [divides.rejected, divides'.rejected, checks_congr same]
  · simp only [divides.foreign, divides'.foreign, Dict.mem_keys_iff, same]

/-- A signer that is no core system is neither valid nor rejected. -/
theorem Divides.notMem_of_notMem_keys (divides : Divides scheme candidate reference payload counted)
    {signer : String} (stranger : signer ∉ reference.coreAses.keys) :
    signer ∉ counted.valid ∧ signer ∉ counted.rejected := by
  have unchecked (outcome : Except String Bool) :
      ¬ Checks scheme candidate reference payload signer outcome := by
    rintro ⟨keys, -, core, -⟩
    exact stranger (Dict.mem_keys_iff.mpr ⟨keys, core⟩)
  rw [divides.valid, divides.rejected]
  exact ⟨unchecked _, by simp [unchecked]⟩

/-! ## All signers -/

/-- As long as valid signers keep their signatures, they stay valid. -/
theorem Divides.length_valid_le (divides : Divides scheme candidate reference payload counted)
    (divides' : Divides scheme candidate' reference payload counted')
    (kept : ∀ signer ∈ counted.valid,
      candidate'.signatures.get? signer = candidate.signatures.get? signer) :
    counted.valid.length ≤ counted'.valid.length := by
  apply (divides.nodup_valid.subperm _).length_le
  intro signer listed
  exact (divides.agreeOn divides' (kept signer listed)).1.mp listed

/-- Sets with the same signers are the same sets. -/
theorem sets_eq_of_tally (tallied : (tally scheme candidate reference).result = .ok counted)
    (tallied' : (tally scheme candidate' reference).result = .ok counted')
    (valid : ∀ signer, signer ∈ counted'.valid ↔ signer ∈ counted.valid)
    (rejected : ∀ signer, signer ∈ counted'.rejected ↔ signer ∈ counted.rejected) :
    counted'.required = counted.required ∧ counted'.valid = counted.valid ∧
      counted'.rejected = counted.rejected := by
  obtain ⟨payload, -, rfl⟩ := tally_eq_ok_iff.mp tallied
  obtain ⟨payload', -, rfl⟩ := tally_eq_ok_iff.mp tallied'
  exact ⟨rfl, Tally.signersWith_congr valid, Tally.signersWith_congr rejected⟩

/-- A decision depends on the valid signers only. -/
theorem verify_congr_of_valid (tallied : (tally scheme candidate reference).result = .ok counted)
    (tallied' : (tally scheme candidate' reference).result = .ok counted')
    (required : counted'.required = counted.required) (valid : counted'.valid = counted.valid) :
    ((∃ met, (verify scheme candidate' reference).result = .ok met) ↔
      ∃ met, (verify scheme candidate reference).result = .ok met) ∧
    ∀ reason, (verify scheme candidate' reference).result = .error reason ↔
      (verify scheme candidate reference).result = .error reason := by
  rw [exists_verify_iff tallied, exists_verify_iff tallied', required, valid]
  refine ⟨Iff.rfl, fun reason => ?_⟩
  rw [result_verify tallied, result_verify tallied', required, valid]
  split <;> simp

/-- If one of the valid signers is not valid any more and the others keep their signatures, there is
one valid signer less. -/
theorem Divides.length_valid_add_one
    (divides : Divides scheme candidate reference payload counted)
    (divides' : Divides scheme candidate' reference payload counted') {signer : String}
    (kept : ∀ other, other ≠ signer →
      candidate'.signatures.get? other = candidate.signatures.get? other)
    (listed : signer ∈ counted.valid) (lost : signer ∉ counted'.valid) :
    counted'.valid.length + 1 = counted.valid.length := by
  have others : counted'.valid.Perm (counted.valid.erase signer) := by
    apply (List.perm_ext_iff_of_nodup divides'.nodup_valid (divides.nodup_valid.erase _)).mpr
    intro other
    rw [divides.nodup_valid.mem_erase_iff]
    constructor
    · intro remains
      have different : other ≠ signer := by
        rintro rfl
        exact lost remains
      exact ⟨different, (divides.agreeOn divides' (kept other different)).1.mpr remains⟩
    · rintro ⟨different, valid⟩
      exact (divides.agreeOn divides' (kept other different)).1.mp valid
  have present := List.length_pos_of_mem listed
  rw [others.length_eq, List.length_erase_of_mem listed]
  omega

/-- Where only the signature of a stranger differs, nobody else is valid and nobody else is
rejected. -/
theorem Divides.sets_of_stranger
    (divides : Divides scheme candidate reference payload counted)
    (divides' : Divides scheme candidate' reference payload counted') {signer : String}
    (kept : ∀ other, other ≠ signer →
      candidate'.signatures.get? other = candidate.signatures.get? other)
    (stranger : signer ∉ reference.coreAses.keys) (other : String) :
    (other ∈ counted'.valid ↔ other ∈ counted.valid) ∧
      (other ∈ counted'.rejected ↔ other ∈ counted.rejected) := by
  by_cases different : other = signer
  · subst different
    simp [divides.notMem_of_notMem_keys stranger, divides'.notMem_of_notMem_keys stranger]
  · obtain ⟨valid, rejected, -⟩ := divides.agreeOn divides' (kept other different)
    exact ⟨valid.symm, rejected.symm⟩

/-- A signer whose new signature does not verify is not valid. -/
theorem Divides.notMem_valid_of_fails {signer : String} {signature : Bytes}
    (divides : Divides scheme (candidate.addSignature signer signature) reference payload counted)
    (fails : ∀ keys, reference.coreAses.get? signer = some keys →
      scheme.verify payload signature keys.onlineKey ≠ .ok true) : signer ∉ counted.valid := by
  intro valid
  obtain ⟨keys, found, core, held, verified⟩ := (divides.valid signer).mp valid
  rw [Document.signatures_addSignature, Dict.get?_insert, if_pos rfl] at held
  obtain rfl := Option.some.inj held
  exact fails keys core verified

/-- A candidate that keeps its signatures and gets more of them stays approved. -/
theorem verify_of_more_signatures {signatures : Dict Bytes}
    (kept : ∀ signer signature, candidate.signatures.get? signer = some signature →
      signatures.get? signer = some signature)
    (met : ∃ counted, (verify scheme candidate reference).result = .ok counted) :
    ∃ counted, (verify scheme { candidate with signatures := signatures } reference).result =
      .ok counted := by
  have input := Document.signingInput_eq candidate false
  have input' : ({ candidate with signatures := signatures } : Document).signingInput false = _ :=
    (Document.signingInput_of_toBody rfl).trans input
  obtain ⟨counted, tallied, divides⟩ := exists_divides scheme reference input
  obtain ⟨counted', tallied', divides'⟩ := exists_divides scheme reference input'
  have enough := (exists_verify_iff tallied).mp met
  apply (exists_verify_iff tallied').mpr
  rw [divides.required] at enough
  rw [divides'.required]
  refine enough.trans (divides.length_valid_le divides' ?_)
  intro signer listed
  obtain ⟨-, signature, -, held, -⟩ := (divides.valid signer).mp listed
  exact (kept signer signature held).trans held.symm

/-- Adding or replacing the signature of one signer leaves every other signer where it is.  Nothing
is decided differently if the signer is no core system, and if it was not valid there are at least
as many valid signers.  Signatures that are added never make a candidate fail.  If there were just
enough valid signers and one of them gets a signature that does not verify, there is one valid
signer too few. -/
theorem tally_addSignature (scheme : SignatureScheme Key) (reference candidate : Document)
    (signer : String) (signature : Bytes) :
    ∃ payload counted counted',
      candidate.signingInput false = .ok payload ∧
      (tally scheme candidate reference).result = .ok counted ∧
      (tally scheme (candidate.addSignature signer signature) reference).result = .ok counted' ∧
      (∀ other, other ≠ signer → counted.AgreeOn counted' other) ∧
      (signer ∉ reference.coreAses.keys →
        (counted'.required = counted.required ∧ counted'.valid = counted.valid ∧
          counted'.rejected = counted.rejected) ∧
        ((∃ met, (verify scheme (candidate.addSignature signer signature) reference).result =
          .ok met) ↔ ∃ met, (verify scheme candidate reference).result = .ok met) ∧
        ∀ reason, (verify scheme (candidate.addSignature signer signature) reference).result =
          .error reason ↔ (verify scheme candidate reference).result = .error reason) ∧
      (signer ∉ counted.valid → counted.valid.length ≤ counted'.valid.length) ∧
      (∀ signatures : Dict Bytes,
        (∀ signer signature, candidate.signatures.get? signer = some signature →
          signatures.get? signer = some signature) →
        (∃ met, (verify scheme candidate reference).result = .ok met) →
        ∃ met, (verify scheme { candidate with signatures := signatures } reference).result =
          .ok met) ∧
      (counted.valid.length = reference.quorumOwnTrc.toNat → signer ∈ counted.valid →
        (∀ keys, reference.coreAses.get? signer = some keys →
          scheme.verify payload signature keys.onlineKey ≠ .ok true) →
        (verify scheme (candidate.addSignature signer signature) reference).result =
          .error (.quorumNotMet reference.quorumOwnTrc (reference.quorumOwnTrc.toNat - 1))) := by
  have input := Document.signingInput_eq candidate false
  have input' : (candidate.addSignature signer signature).signingInput false = _ :=
    (Document.signingInput_of_toBody rfl).trans input
  obtain ⟨counted, tallied, divides⟩ := exists_divides scheme reference input
  obtain ⟨counted', tallied', divides'⟩ := exists_divides scheme reference input'
  have kept : ∀ other, other ≠ signer →
      (candidate.addSignature signer signature).signatures.get? other =
        candidate.signatures.get? other := by
    intro other different
    rw [Document.signatures_addSignature, Dict.get?_insert, if_neg different]
  refine ⟨_, counted, counted', input, tallied, tallied',
    fun other different => divides.agreeOn divides' (kept other different), ?_, ?_,
    fun _ => verify_of_more_signatures, ?_⟩
  · intro stranger
    have same := divides.sets_of_stranger divides' kept stranger
    have sets := sets_eq_of_tally tallied tallied' (fun other => (same other).1)
      fun other => (same other).2
    exact ⟨sets, verify_congr_of_valid tallied tallied' sets.1 sets.2.1⟩
  · intro unlisted
    apply divides.length_valid_le divides'
    intro other listed
    apply kept
    rintro rfl
    exact unlisted listed
  · intro justEnough listed fails
    have fewer := divides.length_valid_add_one divides' kept listed
      (divides'.notMem_valid_of_fails fails)
    have one : counted'.valid.length = reference.quorumOwnTrc.toNat - 1 := by omega
    rw [result_verify tallied', divides'.required, if_neg (by omega), one]

/-- Two of three core systems have signed, as required.  A stranger changes nothing, a wrong
signature of the third one does no harm, and without a usable signature of the second one the
quorum is missed by one. -/
theorem tally_addSignature_twoSigned :
    (∃ met, (verify ownKeyOrFault (twoSigned.addSignature "1-4" [4]) threeCore).result =
      .ok met) ∧
    (∃ counted, (tally ownKeyOrFault (twoSigned.addSignature "1-3" [9]) threeCore).result =
      .ok counted ∧ 2 ≤ counted.valid.length) ∧
    (verify ownKeyOrFault (twoSigned.addSignature "1-2" []) threeCore).result =
      .error (.quorumNotMet 2 1) := by
  have met : (verify ownKeyOrFault twoSigned threeCore).result =
      .ok ⟨2, ["1-1", "1-2"], [], []⟩ := by
    have stand payload : standings ownKeyOrFault twoSigned threeCore payload =
        [("1-1", .valid), ("1-2", .valid)] := rfl
    exact verify_eq_ok_of_standings stand (by decide) (by decide)
  have counts {counted : Tally}
      (tallied : (tally ownKeyOrFault twoSigned threeCore).result = .ok counted) :
      counted.valid = ["1-1", "1-2"] := by
    rw [(verify_eq_ok_iff.mp met).1] at tallied
    obtain rfl := Except.ok.inj tallied
    rfl
  refine ⟨?_, ?_, ?_⟩
  · obtain ⟨payload, counted, counted', -, -, -, -, stranger, -⟩ :=
      tally_addSignature ownKeyOrFault threeCore twoSigned "1-4" [4]
    exact (stranger (by decide)).2.1.mpr ⟨_, met⟩
  · obtain ⟨payload, counted, counted', -, tallied, tallied', -, -, more, -⟩ :=
      tally_addSignature ownKeyOrFault threeCore twoSigned "1-3" [9]
    rw [counts tallied] at more
    exact ⟨counted', tallied', more (by decide)⟩
  · obtain ⟨payload, counted, counted', -, tallied, -, -, -, -, -, fails⟩ :=
      tally_addSignature ownKeyOrFault threeCore twoSigned "1-2" []
    rw [counts tallied] at fails
    refine fails rfl (by decide) ?_
    rintro keys - ⟨⟩

end Quorum

end TrustRoot
