import TrustRoot.Document.Signing

/-!
# Quorum

Whether a candidate is approved by the core systems of a reference. Every signature of the
candidate has a standing: its signer is foreign to the reference, or the signature verifies under
the online key of the signer, or it does not. The tally collects the signers by standing; it does
not depend on the order in which signatures are checked, and the quorum is met when enough
signatures are valid.
-/

namespace TrustRoot

/-- What a signature is worth to a reference. -/
inductive Standing where
  | foreign
  | valid
  | mismatch
  | fault (error : Error)

namespace Standing

def isForeign : Standing → Bool
  | .foreign => true
  | _ => false

def isValid : Standing → Bool
  | .valid => true
  | _ => false

def isRejected : Standing → Bool
  | .mismatch | .fault _ => true
  | _ => false

def event? (signer : String) : Standing → Option Event
  | .mismatch => some (.mismatch signer)
  | .fault error => some (.schemeFault signer error)
  | _ => none

end Standing

def nameSet (names : List String) : List String :=
  (Dict.ofList (names.map fun name => (name, ()))).keys

/-- The signers of a candidate by standing. -/
structure Tally where
  required : UInt32
  valid : List String
  rejected : List String
  foreign : List String
  deriving DecidableEq, Repr

namespace Tally

def achieved (tally : Tally) : Nat := tally.valid.length

def isMet (tally : Tally) : Bool := tally.required.toNat ≤ tally.achieved

/-- The signers whose standing passes a test, as a set. -/
def signersWith (test : Standing → Bool) (standings : List (String × Standing)) : List String :=
  nameSet ((standings.filter fun entry => test entry.2).map Prod.fst)

def collect (required : UInt32) (standings : List (String × Standing)) : Tally where
  required := required
  valid := signersWith Standing.isValid standings
  rejected := signersWith Standing.isRejected standings
  foreign := signersWith Standing.isForeign standings

end Tally

namespace Quorum

variable {Key : Type}

/-- The standing of a signature of a payload. -/
def standing (scheme : SignatureScheme Key) (reference : Document) (payload : Bytes)
    (signer : String) (signature : Bytes) : Standing :=
  match reference.coreAses.get? signer with
  | none => .foreign
  | some keys =>
    match scheme.verify payload signature keys.onlineKey with
    | .ok true => .valid
    | .ok false => .mismatch
    | .error message => .fault (.signaturePrimitive message)

/-- The standings of all signatures of a candidate over a payload, by ascending signer. -/
def standings (scheme : SignatureScheme Key) (candidate reference : Document) (payload : Bytes) :
    List (String × Standing) :=
  candidate.signatures.entries.map fun (signer, signature) =>
    (signer, standing scheme reference payload signer signature)

/-- The event for the foreign signers of a candidate, if there are any. -/
def foreignEvents (candidate : Document) (foreign : List String) : List Event :=
  if foreign = [] then [] else [.foreign candidate.isd candidate.version foreign]

/-- The signers of a candidate by what their signatures are worth to a reference. -/
def tally (scheme : SignatureScheme Key) (candidate reference : Document) : Audited Tally := do
  let payload ← .ofResult (candidate.signingInput false)
  let standings := standings scheme candidate reference payload
  let tally := Tally.collect reference.quorumOwnTrc standings
  .emitAll (foreignEvents candidate tally.foreign)
  .emitAll (standings.filterMap fun (signer, standing) => standing.event? signer)
  .emit (.tallied candidate.isd candidate.version tally.achieved tally.required)
  return tally

/-- The tally of a candidate that meets the quorum of a reference. -/
def verify (scheme : SignatureScheme Key) (candidate reference : Document) : Audited Tally := do
  let tally ← tally scheme candidate reference
  if tally.isMet then return tally
  else do
    .emit (.quorumNotMet candidate.isd candidate.version tally.required tally.achieved)
    .fail (.quorumNotMet tally.required tally.achieved)

end Quorum

end TrustRoot
