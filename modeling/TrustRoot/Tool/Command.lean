import TrustRoot.Service
import TrustRoot.Text.Blank
import TrustRoot.Tool.Failure

/-!
# Commands

A command reads one or two configurations and reports on them. Commands are generic in what stands
for a file: first its path, then its contents. A report has a verdict, and the two commands that
check signatures may reject; a command that fails has no report, and so no output.
-/

namespace TrustRoot.Tool

/-- What to do, with files given as values of one type. -/
inductive Command (File : Type) where
  | display (file : File) (includeSignatures : Bool)
  | fingerprint (file : File)
  | canonical (file : File) (includeSignatures : Bool)
  | sign (file : File) (signer seedHex : String)
  | verify (candidate reference : File)
  | rotate (predecessor successor : File)
  deriving DecidableEq, Repr

/-- The command with each file replaced by what an action makes of it, in order. -/
def Command.traverse {m : Type → Type} [Monad m] {File Content : Type} (load : File → m Content) :
    Command File → m (Command Content)
  | .display file includeSignatures => do return .display (← load file) includeSignatures
  | .fingerprint file => do return .fingerprint (← load file)
  | .canonical file includeSignatures => do return .canonical (← load file) includeSignatures
  | .sign file signer seedHex => do return .sign (← load file) signer seedHex
  | .verify candidate reference => do return .verify (← load candidate) (← load reference)
  | .rotate predecessor successor => do return .rotate (← load predecessor) (← load successor)

/-- What a command finds. -/
inductive Verdict where
  | accepted
  | rejected
  deriving DecidableEq, Repr

/-- What comes of a command that does not fail. -/
structure Report where
  verdict : Verdict
  output : Bytes
  deriving DecidableEq, Repr

def textLines (lines : List String) : Bytes :=
  Bytes.ofText (String.join (lines.map fun line => line ++ "\n"))

def listing (names : List String) : String :=
  if names = [] then "-" else String.intercalate ", " names

def tallyLines (tally : Tally) : List String :=
  let verdict := if tally.isMet then "met" else "NOT met"
  [s!"required: {tally.required}", s!"valid:    {listing tally.valid}",
    s!"rejected: {listing tally.rejected}", s!"foreign:  {listing tally.foreign}",
    s!"quorum {verdict} ({tally.achieved} of {tally.required})"]

/-- The line that reports an accepted successor. -/
def acceptedLine (predecessor successor : Document) (tally : Tally) : String :=
  s!"accepted: ISD {successor.isd} version {predecessor.version} -> {successor.version} " ++
    s!"({tally.achieved} of {tally.required} signatures)"

/-- The key pair of a hexadecimal seed, which may stand between blanks. -/
def keyOfSeed (seedHex : String) : Except Failure Ed25519.KeyPair := do
  let digits := String.ofList (Text.trim seedHex.toList)
  let seed ← (Hex.decode (Bytes.ofText digits)).mapError .seedDigits
  (Ed25519.KeyPair.ofSeed seed).mapError .seedLength

namespace Command

variable (service : Service Ed25519.KeyPair) (compressed : Bool)

def readDocument (role : Role) (raw : Bytes) : Trail Failure Document :=
  (service.parse compressed raw).mapError (.document role)

/-- The contents of a file with one more signature, in an envelope like the one it came in. -/
def signRaw (raw : Bytes) (signer seedHex : String) : Trail Failure Bytes := do
  let document ← readDocument service compressed .subject raw
  let key ← .ofResult (keyOfSeed seedHex)
  if document.coreAses.contains signer = false then Trail.emit (.notCoreSigner signer)
  let signed ← (service.sign document signer key).mapError .operation
  .ofResult ((service.pack compressed signed).mapError .operation)

def verifyRaw (candidate reference : Bytes) : Trail Failure Report := do
  let candidate ← readDocument service compressed .candidate candidate
  let reference ← readDocument service compressed .reference reference
  let tally ← (Quorum.tally service.scheme candidate reference).mapError .operation
  return ⟨if tally.isMet then .accepted else .rejected, textLines (tallyLines tally)⟩

def rotateRaw (predecessor successor : Bytes) : Trail Failure Report := do
  let predecessor ← readDocument service compressed .predecessor predecessor
  let successor ← readDocument service compressed .successor successor
  match ← (service.verifyRotation predecessor successor).attempt with
  | .ok tally => return ⟨.accepted, textLines [acceptedLine predecessor successor tally]⟩
  | .error reason =>
    if reason.isRejection then return ⟨.rejected, textLines [s!"rejected: {reason.message}"]⟩
    else .fail (.operation reason)

/-- The report of a command on the contents of its files. -/
def run : Command Bytes → Trail Failure Report
  | .display raw includeSignatures => do
    let document ← readDocument service compressed .subject raw
    return ⟨.accepted, textLines [document.text includeSignatures]⟩
  | .fingerprint raw => do
    let document ← readDocument service compressed .subject raw
    let digest ← .ofResult (document.fingerprint.mapError .operation)
    return ⟨.accepted, textLines [Hex.encodeText digest]⟩
  | .canonical raw includeSignatures => do
    let document ← readDocument service compressed .subject raw
    let payload ← .ofResult ((document.signingInput includeSignatures).mapError .operation)
    return ⟨.accepted, payload⟩
  | .sign raw signer seedHex => do
    return ⟨.accepted, ← signRaw service compressed raw signer seedHex⟩
  | .verify candidate reference => verifyRaw service compressed candidate reference
  | .rotate predecessor successor => rotateRaw service compressed predecessor successor

end Command

end TrustRoot.Tool
