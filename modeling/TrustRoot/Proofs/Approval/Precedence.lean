import TrustRoot.Proofs.Approval.Decision
import TrustRoot.Proofs.Approval.Rotation

/-!
# The reason for a refusal

The rules of succession stand in an order, and a candidate is judged as if they were checked one
after the other.  It is refused for the first rule that it breaks, whatever it breaks after that,
and signatures are looked at only if all other rules hold (`verify_first_broken`).
-/

namespace TrustRoot.Rotation

variable {Key : Type} {scheme : SignatureScheme Key} {previous candidate : Document}

/-- What is asked of a successor. -/
inductive Rule where
  | sameDomain
  | successor
  | notOlder
  | noQuarantine
  | quorum
  deriving DecidableEq, Repr

namespace Rule

/-- The rules that need no signatures, in the order of their checks. -/
def structural : List Rule := [.sameDomain, .successor, .notOlder, .noQuarantine]

/-- All rules, in the order of their checks. -/
def order : List Rule := structural ++ [.quorum]

def Holds (scheme : SignatureScheme Key) (previous candidate : Document) : Rule → Prop
  | .sameDomain => candidate.isd = previous.isd
  | .successor => candidate.version.toNat = previous.version.toNat + 1
  | .notOlder => previous.creationTime.toNat ≤ candidate.creationTime.toNat
  | .noQuarantine => previous.quarantine = false ∧ candidate.quarantine = false
  | .quorum => ∃ counted, (Quorum.verify scheme candidate previous).result = .ok counted

/-- The error says that a rule is broken, and by what. -/
def Reports (scheme : SignatureScheme Key) (previous candidate : Document) (reason : Error) :
    Rule → Prop
  | .sameDomain => reason = .isdMismatch previous.isd candidate.isd
  | .successor => ∃ expected : UInt64,
      expected.toNat = min (previous.version.toNat + 1) (2 ^ 64 - 1) ∧
        reason = .versionMismatch expected candidate.version
  | .notOlder => reason = .timestampRegression previous.creationTime candidate.creationTime
  | .noQuarantine => reason = .quarantineViolation previous.quarantine candidate.quarantine
  | .quorum => ∃ counted, (Quorum.tally scheme candidate previous).result = .ok counted ∧
      reason = .quorumNotMet previous.quorumOwnTrc counted.valid.length

/-- The check of one rule by itself. -/
def check (scheme : SignatureScheme Key) (previous candidate : Document) :
    Rule → Except Error Unit
  | .sameDomain =>
    if previous.isd ≠ candidate.isd then .error (.isdMismatch previous.isd candidate.isd)
    else .ok ()
  | .successor =>
    if follows previous.version candidate.version = false then
      .error (.versionMismatch (nextVersion previous.version) candidate.version)
    else .ok ()
  | .notOlder =>
    if candidate.creationTime < previous.creationTime then
      .error (.timestampRegression previous.creationTime candidate.creationTime)
    else .ok ()
  | .noQuarantine =>
    if previous.quarantine || candidate.quarantine then
      .error (.quarantineViolation previous.quarantine candidate.quarantine)
    else .ok ()
  | .quorum => (Quorum.verify scheme candidate previous).result.map fun _ => ()

end Rule

/-- The next version counts on, up to the largest number. -/
theorem toNat_nextVersion (version : UInt64) :
    (nextVersion version).toNat = min (version.toNat + 1) (2 ^ 64 - 1) := by
  have bound := version.toNat_lt
  unfold nextVersion
  split
  · rename_i small
    rw [UInt64.toNat_add, UInt64.toNat_one, Nat.mod_eq_of_lt small]
    omega
  · omega

/-! ## One rule -/

theorem Rule.check_eq_ok_iff {rule : Rule} :
    rule.check scheme previous candidate = .ok () ↔ rule.Holds scheme previous candidate := by
  cases rule with
  | sameDomain =>
      rw [check, ite_error_eq_ok_iff, Decidable.not_not, eq_comm]
      rfl
  | successor =>
      rw [check, ite_error_eq_ok_iff, Bool.not_eq_false]
      exact beq_iff_eq
  | notOlder =>
      rw [check, ite_error_eq_ok_iff, UInt64.not_lt]
      rfl
  | noQuarantine =>
      rw [check, ite_error_eq_ok_iff, Bool.or_eq_true, not_or, Bool.not_eq_true, Bool.not_eq_true]
      rfl
  | quorum =>
      rw [check, Holds]
      cases (Quorum.verify scheme candidate previous).result <;> simp [Except.map]

/-- The quorum is the only reason why a candidate is not approved. -/
theorem quorum_verify_eq_error_iff {reason : Error} :
    (Quorum.verify scheme candidate previous).result = .error reason ↔
      (¬ ∃ counted, (Quorum.verify scheme candidate previous).result = .ok counted) ∧
        ∃ counted, (Quorum.tally scheme candidate previous).result = .ok counted ∧
          reason = .quorumNotMet previous.quorumOwnTrc counted.valid.length := by
  obtain ⟨payload, counted, -, tallied, -, -, decided⟩ :=
    Quorum.tally_decides scheme candidate previous
  rw [decided, tallied]
  split <;> simp [eq_comm]

theorem Rule.check_eq_error_iff {rule : Rule} {reason : Error} :
    rule.check scheme previous candidate = .error reason ↔
      ¬ rule.Holds scheme previous candidate ∧ rule.Reports scheme previous candidate reason := by
  rw [← check_eq_ok_iff]
  cases rule with
  | sameDomain | notOlder | noQuarantine =>
      simp only [check, ite_error_eq_error_iff, ite_error_eq_ok_iff, Decidable.not_not]
      rfl
  | successor =>
      simp only [check, ite_error_eq_error_iff, ite_error_eq_ok_iff, Decidable.not_not]
      refine and_congr_right fun _ => ⟨fun same => ⟨_, toNat_nextVersion _, same⟩, ?_⟩
      rintro ⟨expected, next, same⟩
      rw [same, UInt64.toNat_inj.mp (next.trans (toNat_nextVersion _).symm)]
  | quorum =>
      rw [check_eq_ok_iff, check, map_eq_error_iff, quorum_verify_eq_error_iff]
      rfl

/-! ## All rules in their order -/

/-- The rules that need no signatures are checked one after the other. -/
theorem checkTransition_eq_forM (scheme : SignatureScheme Key) (previous candidate : Document) :
    checkTransition previous candidate =
      forM Rule.structural (Rule.check scheme previous candidate) := by
  unfold checkTransition
  simp only [Rule.structural, List.forM_cons, List.forM_nil, Rule.check]
  split
  · rfl
  split
  · rfl
  split
  · rfl
  split <;> rfl

/-- The quorum is checked after them. -/
theorem result_verify_eq_forM (scheme : SignatureScheme Key) (previous candidate : Document) :
    ((verify scheme previous candidate).result.map fun _ => ()) =
      forM Rule.order (Rule.check scheme previous candidate) := by
  rw [Rule.order, List.forM_append, ← checkTransition_eq_forM]
  unfold verify
  cases checkTransition previous candidate with
  | error reason => rfl
  | ok passed =>
      simp only [Trail.result_bind, List.forM_cons, List.forM_nil, Rule.check]
      cases (Quorum.verify scheme candidate previous).result <;> rfl

theorem verify_eq_error_iff {reason : Error} :
    (verify scheme previous candidate).result = .error reason ↔
      ∃ before rule after, Rule.order = before ++ rule :: after ∧
        (∀ earlier ∈ before, earlier.Holds scheme previous candidate) ∧
        ¬ rule.Holds scheme previous candidate ∧
          rule.Reports scheme previous candidate reason := by
  rw [← map_eq_error_iff (f := fun _ => ()), result_verify_eq_forM, ← List.forM_eq_forM,
    forM_eq_error_iff]
  simp only [Rule.check_eq_ok_iff, Rule.check_eq_error_iff]

theorem mayFollow_iff (scheme : SignatureScheme Key) :
    MayFollow previous candidate ↔
      ∀ rule ∈ Rule.structural, rule.Holds scheme previous candidate := by
  rw [← checkTransition_eq_ok_iff, checkTransition_eq_forM scheme, ← List.forM_eq_forM,
    forM_eq_ok_iff]
  simp only [Rule.check_eq_ok_iff]

/-- Where a rule that needs no signatures is broken, signatures are not looked at. -/
theorem verify_of_not_mayFollow (broken : ¬ MayFollow previous candidate)
    (scheme other : SignatureScheme Key) (signatures signatures' : Dict Bytes) :
    verify other { previous with signatures := signatures }
        { candidate with signatures := signatures' } = verify scheme previous candidate := by
  have same : checkTransition { previous with signatures := signatures }
      { candidate with signatures := signatures' } = checkTransition previous candidate := rfl
  unfold verify
  rw [same]
  cases outcome : checkTransition previous candidate with
  | error reason => rfl
  | ok passed => exact absurd (checkTransition_eq_ok_iff.mp outcome) broken

/-- A candidate is accepted exactly if all rules hold, and then with its tally as judged by the
predecessor.  It is refused with an error exactly if that reports the first rule that is broken.
Unless all rules but the quorum hold, neither signatures nor the scheme that checks them make any
difference. -/
theorem verify_first_broken (scheme : SignatureScheme Key) (previous candidate : Document) :
    (∀ counted, (verify scheme previous candidate).result = .ok counted ↔
      (∀ rule ∈ Rule.order, rule.Holds scheme previous candidate) ∧
        (Quorum.verify scheme candidate previous).result = .ok counted) ∧
    (∀ reason, (verify scheme previous candidate).result = .error reason ↔
      ∃ before rule after, Rule.order = before ++ rule :: after ∧
        (∀ earlier ∈ before, earlier.Holds scheme previous candidate) ∧
        ¬ rule.Holds scheme previous candidate ∧
          rule.Reports scheme previous candidate reason) ∧
    ((∃ rule ∈ Rule.structural, ¬ rule.Holds scheme previous candidate) →
      ∀ (other : SignatureScheme Key) (signatures signatures' : Dict Bytes),
        verify other { previous with signatures := signatures }
          { candidate with signatures := signatures' } = verify scheme previous candidate) := by
  refine ⟨fun counted => ?_, fun _ => verify_eq_error_iff, ?_⟩
  · rw [verify_eq_ok_iff, mayFollow_iff scheme, Rule.order]
    constructor
    · rintro ⟨rules, met⟩
      exact ⟨List.forall_mem_append.mpr ⟨rules, by simpa using ⟨counted, met⟩⟩, met⟩
    · rintro ⟨rules, met⟩
      exact ⟨(List.forall_mem_append.mp rules).1, met⟩
  · rintro ⟨rule, listed, broken⟩
    apply verify_of_not_mayFollow
    intro rules
    exact broken ((mayFollow_iff scheme).mp rules rule listed)

/-- The candidate has the version of its predecessor, which is an early announcement, and one valid
signature where two are required.  The version is the reason. -/
theorem verify_first_broken_mixed :
    (∃ rule ∈ Rule.structural,
      ¬ rule.Holds Quorum.ownKeyOrFault Quorum.threeCore Quorum.mixedSignatures) ∧
    (verify Quorum.ownKeyOrFault Quorum.threeCore Quorum.mixedSignatures).result =
      .error (.versionMismatch 8 7) ∧
    ∀ signatures : Dict Bytes,
      verify Quorum.ownKeyOrFault Quorum.threeCore
        { Quorum.mixedSignatures with signatures := signatures } =
          verify Quorum.ownKeyOrFault Quorum.threeCore Quorum.mixedSignatures := by
  have version : ¬ Rule.successor.Holds Quorum.ownKeyOrFault Quorum.threeCore
      Quorum.mixedSignatures := by
    change ¬ (7 : Nat) = 7 + 1
    decide
  have broken : ∃ rule ∈ Rule.structural,
      ¬ rule.Holds Quorum.ownKeyOrFault Quorum.threeCore Quorum.mixedSignatures :=
    ⟨.successor, by decide, version⟩
  obtain ⟨-, refused, unsigned⟩ :=
    verify_first_broken Quorum.ownKeyOrFault Quorum.threeCore Quorum.mixedSignatures
  refine ⟨broken, (refused _).mpr ?_, unsigned broken Quorum.ownKeyOrFault _⟩
  refine ⟨[.sameDomain], .successor, [.notOlder, .noQuarantine, .quorum], rfl, ?_, version, ?_⟩
  · rintro rule listed
    obtain rfl := List.mem_singleton.mp listed
    rfl
  · exact ⟨8, by decide, rfl⟩

end TrustRoot.Rotation
