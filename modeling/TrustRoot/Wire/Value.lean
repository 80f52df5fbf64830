import TrustRoot.Json.Writer
import TrustRoot.Text.Base64
import TrustRoot.Text.Numeral
import TrustRoot.Wire.Field

/-!
# Field values

The value of a field has the type of its kind. Reading a JSON value as a kind gives that value or
the fault; integers may be written as texts of digits, and octets are Base64 texts with complete
padding. A kind also accepts or refuses a JSON value by its form alone (`Kind.accepts`).
-/

namespace TrustRoot

/-- The values of a kind. -/
def Kind.Value : Kind → Type
  | .integer => UInt64
  | .text => String
  | .octets => Bytes
  | .boolean => Bool
  | .map => Dict Json

inductive ValueFault where
  | unexpected (kind : Kind) (found : Json)
  | base64 (fault : Base64.Fault)

def ValueFault.message : ValueFault → String
  | .unexpected kind found => s!"expected {kind.expectation}, got {found.render .compact}"
  | .base64 fault => s!"invalid base64: {fault.message}"

namespace Kind

/-- The number of a text that consists of digits, below 2^64. -/
def digitsValue? (digits : String) : Option UInt64 :=
  match Numeral.value? 10 digits.toList with
  | some number => if number < 2 ^ 64 then some (UInt64.ofNat number) else none
  | none => none

def integer? : Json → Option UInt64
  | .number (.natural value) => some value
  | .string digits => digitsValue? digits
  | _ => none

def read : (kind : Kind) → Json → Except ValueFault kind.Value
  | .integer, found =>
    match integer? found with
    | some value => .ok value
    | none => .error (.unexpected .integer found)
  | .text, .string written => .ok written
  | .octets, .string written =>
    (Base64.decode .required (Bytes.ofText written)).mapError .base64
  | .boolean, .bool value => .ok value
  | .map, .object members => .ok (Dict.ofList members)
  | kind, found => .error (.unexpected kind found)

/-- Whether a JSON value has the form in which values of a kind are projected. -/
def accepts : Kind → Json → Bool
  | .integer, .number (.natural _) => true
  | .text, .string _ => true
  | .octets, .string _ => true
  | .boolean, .bool _ => true
  | .map, .object _ => true
  | _, _ => false

end Kind

end TrustRoot
