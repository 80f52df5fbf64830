import TrustRoot.Approval.Rotation
import TrustRoot.Proofs.Approval.Tally

/-!
# Accepted successors

A candidate is accepted exactly if it may follow its predecessor and meets the quorum of the
predecessor.  The largest version has no successor, since the next one is not a version.
-/

namespace TrustRoot.Rotation

variable {Key : Type} {scheme : SignatureScheme Key} {previous candidate : Document}

/-- The rules of succession that need no signatures. -/
structure MayFollow (previous candidate : Document) : Prop where
  isd : candidate.isd = previous.isd
  version : candidate.version.toNat = previous.version.toNat + 1
  creationTime : previous.creationTime ≤ candidate.creationTime
  quarantine : previous.quarantine = false
  quarantine' : candidate.quarantine = false

theorem checkTransition_eq_ok_iff :
    checkTransition previous candidate = .ok () ↔ MayFollow previous candidate := by
  unfold checkTransition
  constructor
  · intro passed
    split at passed
    · cases passed
    split at passed
    · cases passed
    split at passed
    · cases passed
    split at passed
    · cases passed
    · rename_i isd version creationTime quarantine
      simp only [Bool.or_eq_true, not_or, Bool.not_eq_true] at quarantine
      simp only [follows, Bool.not_eq_false, beq_iff_eq] at version
      exact ⟨(Decidable.not_not.mp isd).symm, version, UInt64.not_lt.mp creationTime,
        quarantine.1, quarantine.2⟩
  · intro rules
    have follows : follows previous.version candidate.version = true :=
      beq_iff_eq.mpr rules.version
    simp [rules.isd, follows, UInt64.not_lt.mpr rules.creationTime, rules.quarantine,
      rules.quarantine']

theorem verify_eq_ok_iff {counted : Tally} :
    (verify scheme previous candidate).result = .ok counted ↔
      MayFollow previous candidate ∧
        (Quorum.verify scheme candidate previous).result = .ok counted := by
  rw [← checkTransition_eq_ok_iff]
  unfold verify
  cases checkTransition previous candidate with
  | error reason =>
      simp only [Trail.result_bind_eq_ok_iff]
      constructor
      · rintro ⟨-, -, ⟨⟩⟩
      · rintro ⟨⟨⟩, -⟩
  | ok passed =>
      simp only [Trail.result_bind_eq_ok_iff, Trail.result_pure, Except.ok.injEq]
      constructor
      · rintro ⟨counted, met, -, -, rfl⟩
        exact ⟨trivial, met⟩
      · rintro ⟨-, met⟩
        exact ⟨counted, met, (), rfl, rfl⟩

/-- A candidate is accepted after a predecessor. -/
def Accepts (scheme : SignatureScheme Key) (previous candidate : Document) : Prop :=
  ∃ counted, (verify scheme previous candidate).result = .ok counted

instance (scheme : SignatureScheme Key) (previous candidate : Document) :
    Decidable (Accepts scheme previous candidate) :=
  match outcome : (verify scheme previous candidate).result with
  | .ok counted => isTrue ⟨counted, outcome⟩
  | .error reason => isFalse (by
      rintro ⟨counted, accepted⟩
      rw [outcome] at accepted
      cases accepted)

theorem Accepts.mayFollow (accepted : Accepts scheme previous candidate) :
    MayFollow previous candidate := by
  obtain ⟨counted, done⟩ := accepted
  exact (verify_eq_ok_iff.mp done).1

theorem Accepts.approved (accepted : Accepts scheme previous candidate) :
    Quorum.Approved scheme previous candidate := by
  obtain ⟨counted, done⟩ := accepted
  exact Quorum.approved_of_verify (verify_eq_ok_iff.mp done).2

theorem not_accepts_of_version_eq_max (isMax : previous.version.toNat = 2 ^ 64 - 1) :
    ¬ Accepts scheme previous candidate := by
  intro accepted
  have version := accepted.mayFollow.version
  have bound := candidate.version.toNat_lt
  omega

end TrustRoot.Rotation
