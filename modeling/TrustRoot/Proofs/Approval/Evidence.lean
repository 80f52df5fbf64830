import TrustRoot.Proofs.Approval.Precedence

/-!
# Reasons as evidence

An error that refuses a successor carries values of the two documents compared, and these values by
themselves break the rule that the error names (`evident_of_verify`).  The one exception is the
largest version: no version is above it, so it stands for its own successor and a candidate that
repeats it is refused with two equal versions (`largest_version_expects_itself`).
-/

namespace TrustRoot.Rotation

variable {Key : Type} {scheme : SignatureScheme Key} {previous candidate : Document}

/-- The values of an error are those of the documents compared and break the rule in question. -/
def Evident (scheme : SignatureScheme Key) (previous candidate : Document) : Error → Prop
  | .isdMismatch isd isd' => isd = previous.isd ∧ isd' = candidate.isd ∧ isd ≠ isd'
  | .versionMismatch expected actual => actual = candidate.version ∧
      (expected.toNat = previous.version.toNat + 1 ∧ expected ≠ actual ∨
        previous.version.toNat = 2 ^ 64 - 1 ∧ expected = previous.version)
  | .timestampRegression time time' =>
      time = previous.creationTime ∧ time' = candidate.creationTime ∧ time' < time
  | .quarantineViolation early early' => early = previous.quarantine ∧
      early' = candidate.quarantine ∧ (early = true ∨ early' = true)
  | .quorumNotMet required achieved => required = previous.quorumOwnTrc ∧
      (∃ counted, (Quorum.tally scheme candidate previous).result = .ok counted ∧
        achieved = counted.valid.length) ∧ achieved < required.toNat
  | _ => False

theorem evident_version {expected : UInt64}
    (broken : ¬ Rule.successor.Holds scheme previous candidate)
    (next : expected.toNat = min (previous.version.toNat + 1) (2 ^ 64 - 1)) :
    Evident scheme previous candidate (.versionMismatch expected candidate.version) := by
  have bound := previous.version.toNat_lt
  refine ⟨rfl, ?_⟩
  by_cases largest : previous.version.toNat = 2 ^ 64 - 1
  · exact .inr ⟨largest, UInt64.toNat_inj.mp (by omega)⟩
  · have above : expected.toNat = previous.version.toNat + 1 := by omega
    refine .inl ⟨above, ?_⟩
    rintro rfl
    exact broken above

theorem evident_quorum {counted : Tally}
    (broken : ¬ Rule.quorum.Holds scheme previous candidate)
    (tallied : (Quorum.tally scheme candidate previous).result = .ok counted) :
    Evident scheme previous candidate
      (.quorumNotMet previous.quorumOwnTrc counted.valid.length) := by
  refine ⟨rfl, ⟨counted, tallied, rfl⟩, Nat.lt_of_not_le ?_⟩
  intro enough
  obtain ⟨payload, signed, rfl⟩ := Quorum.tally_eq_ok_iff.mp tallied
  exact broken ⟨_, Quorum.verify_eq_ok_iff.mpr ⟨tallied, decide_eq_true enough⟩⟩

/-- Whatever is refused is refused with evidence. -/
theorem evident_of_verify {reason : Error}
    (refused : (verify scheme previous candidate).result = .error reason) :
    Evident scheme previous candidate reason := by
  obtain ⟨-, rule, -, -, -, broken, reported⟩ := verify_eq_error_iff.mp refused
  cases rule with
  | sameDomain =>
      cases reported
      exact ⟨rfl, rfl, fun same => broken same.symm⟩
  | successor =>
      obtain ⟨expected, next, rfl⟩ := reported
      exact evident_version broken next
  | notOlder =>
      cases reported
      exact ⟨rfl, rfl, UInt64.lt_iff_toNat_lt.mpr (Nat.lt_of_not_le broken)⟩
  | noQuarantine =>
      cases reported
      refine ⟨rfl, rfl, ?_⟩
      by_contra neither
      rw [not_or, Bool.not_eq_true, Bool.not_eq_true] at neither
      exact broken neither
  | quorum =>
      obtain ⟨counted, tallied, rfl⟩ := reported
      exact evident_quorum broken tallied

/-- A predecessor that requires two of three core systems. -/
def threeCore : Document :=
  { Quorum.threeCore with quarantine := false }

/-- A successor with a good, a wrong, an unusable and a foreign signature. -/
def mixedSuccessor : Document :=
  { Quorum.mixedSignatures with version := 8, quarantine := false }

theorem tally_mixedSuccessor :
    (Quorum.tally Quorum.ownKeyOrFault mixedSuccessor threeCore).result =
      .ok ⟨2, ["1-1"], ["1-2", "1-3"], ["1-4"]⟩ := by
  refine Quorum.tally_eq_ok_iff.mpr ⟨_, Document.signingInput_eq _ false, ?_⟩
  have worth payload : Quorum.standings Quorum.ownKeyOrFault mixedSuccessor threeCore payload =
      [("1-1", .valid), ("1-2", .mismatch), ("1-3", .fault (.signaturePrimitive "no signature")),
        ("1-4", .foreign)] := rfl
  rw [worth]
  decide

theorem verify_mixedSuccessor :
    (verify Quorum.ownKeyOrFault threeCore mixedSuccessor).result =
      .error (.quorumNotMet 2 1) := by
  have passed : checkTransition threeCore mixedSuccessor = .ok () := rfl
  have short := Quorum.result_verify tally_mixedSuccessor
  rw [verify, passed]
  simp only [Trail.result_bind, short]
  rfl

theorem evident_of_verify_mixed :
    (verify Quorum.ownKeyOrFault threeCore mixedSuccessor).result =
        .error (.quorumNotMet 2 1) ∧
      Evident Quorum.ownKeyOrFault threeCore mixedSuccessor (.quorumNotMet 2 1) :=
  ⟨verify_mixedSuccessor, evident_of_verify verify_mixedSuccessor⟩

/-! ## The largest version -/

def lastValues : Values :=
  { Document.sampleValues with version := 18446744073709551615 }

def lastVersion : Document :=
  { lastValues with creationTime := 0 }

/-- The largest version is expected after itself, and refused with two equal versions. -/
theorem largest_version_expects_itself :
    Document.ofValues lastValues 0 = .ok lastVersion ∧
      ∃ expected actual, (verify Quorum.ownKeyOrFault lastVersion lastVersion).result =
          .error (.versionMismatch expected actual) ∧
        ¬ (expected ≠ actual ∧ expected.toNat = lastVersion.version.toNat + 1) := by
  refine ⟨rfl, 18446744073709551615, 18446744073709551615, rfl, ?_⟩
  rintro ⟨different, -⟩
  exact different rfl

end TrustRoot.Rotation
