import TrustRoot.Ed25519.Signature
import TrustRoot.Error
import TrustRoot.Text.Hex

/-!
# Failures of the tool

A failure keeps a command from a verdict. Its text says what was being done, and then why that did
not work.
-/

namespace TrustRoot.Tool

inductive Role where
  | subject
  | candidate
  | reference
  | predecessor
  | successor
  deriving DecidableEq, Repr

def Role.name : Role → String
  | .subject => "TRC"
  | .candidate => "candidate"
  | .reference => "reference"
  | .predecessor => "previous TRC"
  | .successor => "candidate TRC"

/-- Why a command comes to no verdict. -/
inductive Failure where
  | reading (path reason : String)
  | writing (path reason : String)
  | document (role : Role) (error : Error)
  | seedDigits (fault : Hex.Fault)
  | seedLength (fault : Ed25519.Fault)
  | operation (error : Error)

def Failure.message : Failure → String
  | .reading path reason => s!"failed to read {path}: {reason}"
  | .writing path reason => s!"failed to write {path}: {reason}"
  | .document role error => s!"failed to parse {role.name}: {error.message}"
  | .seedDigits fault => s!"seed is not valid hex: {fault.message}"
  | .seedLength fault => s!"seed must be 32 bytes: {fault.message}"
  | .operation error => error.message

/-- Whether the run breaks off instead of reporting the failure. -/
def Failure.breaksOff : Failure → Bool
  | .document _ error | .operation error => error.breaksOff
  | _ => false

end TrustRoot.Tool
