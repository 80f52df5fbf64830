import TrustRoot.Approval.Quorum
import TrustRoot.Proofs.Audit
import TrustRoot.Proofs.Dict

/-!
# What a tally counts

The sets of a tally list every signer once, by the standing of the signature.  A quorum is therefore
met by different core systems, each with a signature that verifies under its online key
(`approved_of_verify`).
-/

namespace TrustRoot

@[simp]
theorem mem_nameSet {names : List String} {name : String} :
    name ∈ nameSet names ↔ name ∈ names := by
  rw [nameSet, Dict.mem_keys_ofList]
  simp

theorem nodup_nameSet (names : List String) : (nameSet names).Nodup :=
  Dict.nodup_keys _

theorem perm_nameSet {names : List String} (different : names.Nodup) :
    (nameSet names).Perm names :=
  (List.perm_ext_iff_of_nodup (nodup_nameSet names) different).mpr fun _ => mem_nameSet

namespace Tally

theorem mem_signersWith {test : Standing → Bool} {standings : List (String × Standing)}
    {signer : String} :
    signer ∈ signersWith test standings ↔
      ∃ standing, (signer, standing) ∈ standings ∧ test standing = true := by
  simp [signersWith]

theorem nodup_signersWith (test : Standing → Bool) (standings : List (String × Standing)) :
    (signersWith test standings).Nodup :=
  nodup_nameSet _

end Tally

namespace Quorum

variable {Key : Type} {scheme : SignatureScheme Key} {candidate reference : Document}

theorem standing_isValid_iff {payload : Bytes} {signer : String} {signature : Bytes} :
    (standing scheme reference payload signer signature).isValid = true ↔
      ∃ keys, reference.coreAses.get? signer = some keys ∧
        scheme.verify payload signature keys.onlineKey = .ok true := by
  unfold standing
  cases reference.coreAses.get? signer with
  | none => simp [Standing.isValid]
  | some keys =>
      rcases outcome : scheme.verify payload signature keys.onlineKey with fault | (_ | _) <;>
        simp [outcome, Standing.isValid]

theorem mem_standings {payload : Bytes} {signer : String} {worth : Standing} :
    (signer, worth) ∈ standings scheme candidate reference payload ↔
      ∃ signature, candidate.signatures.get? signer = some signature ∧
        standing scheme reference payload signer signature = worth := by
  simp only [Dict.get?_eq_some_iff, standings, List.mem_map, Prod.mk.injEq]
  constructor
  · rintro ⟨⟨_, signature⟩, listed, rfl, rfl⟩
    exact ⟨signature, listed, rfl⟩
  · rintro ⟨signature, listed, rfl⟩
    exact ⟨(signer, signature), listed, rfl, rfl⟩

theorem tally_eq_ok_iff {counted : Tally} :
    (tally scheme candidate reference).result = .ok counted ↔
      ∃ payload, candidate.signingInput false = .ok payload ∧
        Tally.collect reference.quorumOwnTrc (standings scheme candidate reference payload) =
          counted := by
  simp only [tally, Trail.result_bind_eq_ok_iff, Trail.result_ofResult, Trail.result_pure,
    Except.ok.injEq]
  constructor
  · rintro ⟨payload, signed, -, -, -, -, -, -, rfl⟩
    exact ⟨payload, signed, rfl⟩
  · rintro ⟨payload, signed, rfl⟩
    exact ⟨payload, signed, (), rfl, (), rfl, (), rfl, rfl⟩

theorem verify_eq_ok_iff {counted : Tally} :
    (verify scheme candidate reference).result = .ok counted ↔
      (tally scheme candidate reference).result = .ok counted ∧ counted.isMet = true := by
  simp only [verify, Trail.result_bind_eq_ok_iff]
  constructor
  · rintro ⟨found, tallied, outcome⟩
    split at outcome
    · rename_i met
      cases outcome
      exact ⟨tallied, met⟩
    · cases outcome
  · rintro ⟨tallied, met⟩
    refine ⟨counted, tallied, ?_⟩
    rw [if_pos met]
    rfl

/-- Enough core systems of a reference have signed a candidate, each under its online key. -/
def Approved (scheme : SignatureScheme Key) (reference candidate : Document) : Prop :=
  ∃ (payload : Bytes) (signers : List String),
    candidate.signingInput false = .ok payload ∧ signers.Nodup ∧
    reference.quorumOwnTrc.toNat ≤ signers.length ∧
    ∀ signer ∈ signers, ∃ keys signature, reference.coreAses.get? signer = some keys ∧
      candidate.signatures.get? signer = some signature ∧
      scheme.verify payload signature keys.onlineKey = .ok true

/-- Whatever meets the quorum is approved. -/
theorem approved_of_verify {counted : Tally}
    (met : (verify scheme candidate reference).result = .ok counted) :
    Approved scheme reference candidate := by
  obtain ⟨tallied, met⟩ := verify_eq_ok_iff.mp met
  obtain ⟨payload, signed, rfl⟩ := tally_eq_ok_iff.mp tallied
  -- The signers in question are those that the tally lists as valid.
  refine ⟨payload, _, signed, Tally.nodup_signersWith _ _, of_decide_eq_true met, ?_⟩
  intro signer listed
  obtain ⟨worth, stands, isValid⟩ := Tally.mem_signersWith.mp listed
  obtain ⟨signature, held, rfl⟩ := mem_standings.mp stands
  obtain ⟨keys, core, verified⟩ := standing_isValid_iff.mp isValid
  exact ⟨keys, signature, core, held, verified⟩

end Quorum

end TrustRoot
