import TrustRoot.Digest
import TrustRoot.Document.Projection

/-!
# Signing input

Signatures cover a canonical text of the projected fields: texts become Base64 of their UTF-8
octets, objects other than the signatures keep their textual members only, as Base64 as well, and
everything is written in ASCII on one line with names ascending. The records of core systems are
objects, so that no key material is covered.
-/

namespace TrustRoot

/-- The Base64 form of the UTF-8 octets of a text. -/
def textAsBase64 (text : String) : Json := .string (Base64.encodeText (Bytes.ofText text))

/-- The member with its text as Base64, unless it is not textual. -/
def textualMember? (member : String × Json) : Option (String × Json) :=
  match member.2 with
  | .string text => some (member.1, textAsBase64 text)
  | _ => none

def Field.canonicalValue (field : Field) (value : Json) : Json :=
  match field.kind, value with
  | .text, .string text => textAsBase64 text
  | .map, .object members =>
    if field = .signatures then .object members else .object (members.filterMap textualMember?)
  | _, value => value

/-- Requires a name to be that of a field and the value to have the form of its kind. -/
def checkProjected (name : String) (value : Json) : Except Error Unit :=
  match Field.ofName? name with
  | none => .error (.canonical name .notAField)
  | some field =>
    if field.kind.accepts value then .ok ()
    else .error (.canonical name (.unexpected field.kind value))

def canonicalMember (name : String) (value : Json) : Json :=
  match Field.ofName? name with
  | some field => field.canonicalValue value
  | none => value

/-- The object whose text is signed; fields are checked by ascending name. -/
def canonicalFields (fields : Dict Json) : Except Error (Dict Json) := do
  fields.entries.forM fun (name, value) => checkProjected name value
  return fields.mapKeyed canonicalMember

def encodeFields (fields : Dict Json) : Except Error Bytes :=
  (canonicalFields fields).map fun canonical =>
    Bytes.ofText ((Json.ofDict canonical).render .ascii)

namespace Document

/-- The octets to sign for a document; signatures are left out unless asked for. -/
def signingInput (document : Document) (includeSignatures : Bool) : Except Error Bytes :=
  encodeFields (document.projectFields includeSignatures)

/-- The digest of what is signed. -/
def fingerprint (document : Document) : Except Error Bytes :=
  (document.signingInput false).map sha256

end Document

end TrustRoot
