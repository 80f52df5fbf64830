import TrustRoot.AsIdentifier
import TrustRoot.Json.Fault
import TrustRoot.Wire.CoreKeys
import TrustRoot.Wire.Value

/-!
# Errors

An error is a cause: what was found and what the rule asks for. Its wording is a function of the
cause. The errors of approving a successor are rejections (`Error.isRejection`); the others say
that some input is unusable.
-/

namespace TrustRoot

/-- Why a configuration is malformed at one field. -/
inductive MalformedReason where
  | json (report : Json.Report)
  | notAnObject
  | unknownField
  | missing
  | value (fault : ValueFault)
  | coreKeys (identifier : String) (fault : CoreKeys.Fault)
  | signature (signer : String) (fault : ValueFault)
  | outOfRange (number : UInt64)
  | notPositive
  | exceedsCore (quorum : UInt32) (coreAses : Nat)

def MalformedReason.message : MalformedReason → String
  | .json report => report.message
  | .notAnObject => "expected a JSON object"
  | .unknownField => "unknown field"
  | .missing => "missing"
  | .value fault => fault.message
  | .coreKeys identifier fault => s!"{identifier}: {fault.message}"
  | .signature signer fault => s!"{signer}: {fault.message}"
  | .outOfRange number => s!"{number} out of range"
  | .notPositive => "must be positive"
  | .exceedsCore quorum coreAses => s!"{quorum} exceeds the {coreAses} core ASes"

/-- Why a field has no place in a signing input. -/
inductive CanonicalReason where
  | notAField
  | unexpected (kind : Kind) (found : Json)

def CanonicalReason.message : CanonicalReason → String
  | .notAField => "not a schema field"
  | .unexpected kind found => s!"expected {kind.name}, got {found.render .compact}"

/-- Why an envelope cannot be made or opened. -/
inductive EnvelopeFault where
  | exceeds (limit : Nat)
  | codec (message : String)
  /-- A sum does not fit its bits, and the run breaks off. -/
  | overflow
  deriving DecidableEq, Repr

def EnvelopeFault.message : EnvelopeFault → String
  | .exceeds limit => s!"decompressed payload exceeds {limit} bytes"
  | .codec message => message
  | .overflow => "attempt to add with overflow"

/-- What can go wrong with configurations. -/
inductive Error where
  | malformed (field : String) (reason : MalformedReason)
  | canonical (field : String) (reason : CanonicalReason)
  | signaturePrimitive (message : String)
  | quorumNotMet (required : UInt32) (achieved : Nat)
  | isdMismatch (previous candidate : UInt16)
  | versionMismatch (expected actual : UInt64)
  | timestampRegression (previous candidate : UInt64)
  | quarantineViolation (previous candidate : Bool)
  | identifier (text : String) (fault : AsIdentifier.Fault)
  | compression (fault : EnvelopeFault)
  | payloadTooLarge (size limit : Nat)

namespace Error

/-- The place that stands for a whole configuration. -/
def wholeDocument : String := "<document>"

def message : Error → String
  | .malformed field reason => s!"Malformed TRC field {field}: {reason.message}"
  | .canonical field reason => s!"Cannot encode field {field} for signing: {reason.message}"
  | .signaturePrimitive message => s!"Signature primitive failed: {message}"
  | .quorumNotMet required achieved =>
    s!"Quorum not met: {achieved} valid signatures, {required} required"
  | .isdMismatch previous candidate =>
    s!"ISD mismatch: previous TRC is for ISD {previous}, candidate for ISD {candidate}"
  | .versionMismatch expected actual => s!"Version mismatch: expected {expected}, got {actual}"
  | .timestampRegression previous candidate =>
    s!"Timestamp regression: candidate created at {candidate}, predecessor at {previous}"
  | .quarantineViolation previous candidate =>
    s!"Quarantined TRC in rotation (previous: {previous}, candidate: {candidate})"
  | .identifier text fault => s!"Invalid AS identifier {Text.quote text}: {fault.message}"
  | .compression fault => s!"Compression failed: {fault.message}"
  | .payloadTooLarge size limit =>
    s!"Payload too large: {size} bytes exceeds limit of {limit}"

/-- Whether the error refuses a successor rather than an input. -/
def isRejection : Error → Bool
  | .quorumNotMet .. | .isdMismatch .. | .versionMismatch .. | .timestampRegression ..
  | .quarantineViolation .. => true
  | _ => false

/-- Whether the run breaks off instead of returning the error. -/
def breaksOff : Error → Bool
  | .compression .overflow => true
  | _ => false

end Error

/-- The identifier that a text denotes. The error carries the text as it is. -/
def AsIdentifier.ofText (text : String) : Except Error AsIdentifier :=
  (parse text).mapError (.identifier text)

end TrustRoot
