import TrustRoot.Audit
import TrustRoot.Document.SigningInput
import TrustRoot.Scheme

/-!
# Signing documents

Signing adds a signature of the signing input under the name of its signer, in place of an earlier
one of the same signer. The body stays as it is.
-/

namespace TrustRoot.Document

variable {Key : Type}

def addSignature (document : Document) (signer : String) (signature : Bytes) : Document :=
  { document with signatures := document.signatures.insert signer signature }

def signatureOf (scheme : SignatureScheme Key) (document : Document) (key : Key) :
    Except Error Bytes := do
  let payload ← document.signingInput false
  (scheme.sign payload key).mapError .signaturePrimitive

def sign (scheme : SignatureScheme Key) (document : Document) (signer : String) (key : Key) :
    Audited Document := do
  let signature ← .ofResult (document.signatureOf scheme key)
  .emit (.signed document.isd document.version signer)
  return document.addSignature signer signature

@[simp] theorem toBody_addSignature (document : Document) (signer : String) (signature : Bytes) :
    (document.addSignature signer signature).toBody = document.toBody := rfl

@[simp] theorem signatures_addSignature (document : Document) (signer : String)
    (signature : Bytes) : (document.addSignature signer signature).signatures =
      document.signatures.insert signer signature := rfl

end TrustRoot.Document
