import TrustRoot.Approval.Quorum

/-!
# Rotation

A candidate may follow a predecessor of the same isolation domain if its version is the next one,
it is not older, neither of the two is an early announcement, and a quorum of the core systems of
the predecessor has signed it. The rules are checked in this order and the first that is broken is
the reason; signatures are looked at last.
-/

namespace TrustRoot.Rotation

/-- The version after a given one, which stays put at the largest number. -/
def nextVersion (version : UInt64) : UInt64 :=
  if version.toNat + 1 < 2 ^ 64 then version + 1 else version

def follows (previous candidate : UInt64) : Bool := candidate.toNat == previous.toNat + 1

/-- Requires the rules that need no signatures. -/
def checkTransition (previous candidate : Document) : Except Error Unit :=
  if previous.isd ≠ candidate.isd then .error (.isdMismatch previous.isd candidate.isd)
  else if follows previous.version candidate.version = false then
    .error (.versionMismatch (nextVersion previous.version) candidate.version)
  else if candidate.creationTime < previous.creationTime then
    .error (.timestampRegression previous.creationTime candidate.creationTime)
  else if previous.quarantine || candidate.quarantine then
    .error (.quarantineViolation previous.quarantine candidate.quarantine)
  else .ok ()

/-- The tally of a candidate that may follow its predecessor. -/
def verify {Key : Type} (scheme : SignatureScheme Key) (previous candidate : Document) :
    Audited Tally :=
  match checkTransition previous candidate with
  | .error reason => do
    .emit (.rotationRejected previous.isd previous.version candidate.version reason)
    .fail reason
  | .ok () => do
    let tally ← Quorum.verify scheme candidate previous
    .emit (.rotationAccepted candidate.isd candidate.version tally.achieved)
    return tally

end TrustRoot.Rotation
